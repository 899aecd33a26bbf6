import Scaffold.Proofs.Collection
import Scaffold.Proofs.Collection.Site

/-!
# The parts of a class

A class that is collected is the first declaration of its identity with the later ones merged into
it, one by one (`ClassDeclaration.exists_parts`). So it has the methods and the constructors of all
class nodes of its identity, in preorder, and it is static when one of them is; and there are as
many classes as class nodes just when no two nodes share an identity (`collect_gathers`).
-/

namespace Scaffold

namespace ClassDeclaration

/-! ## Merging parts one by one -/

/-- What merging puts together is put together of all parts. -/
theorem foldl_merge_eq_flatMap {α : Type} {f : ClassDeclaration → List α}
    (hf : ∀ c part, f (merge c part) = f c ++ f part) (first : ClassDeclaration)
    (rest : List ClassDeclaration) : f (rest.foldl merge first) = (first :: rest).flatMap f := by
  induction rest generalizing first with
  | nil => simp
  | cons part rest ih =>
    calc f ((part :: rest).foldl merge first)
        = f (rest.foldl merge (first.merge part)) := rfl
      _ = f (first.merge part) ++ rest.flatMap f := by rw [ih, List.flatMap_cons]
      _ = f first ++ (f part ++ rest.flatMap f) := by rw [hf, List.append_assoc]
      _ = (first :: part :: rest).flatMap f := by rw [List.flatMap_cons, List.flatMap_cons]

/-- A class is static when one of its parts is. -/
theorem isStatic_foldl_merge (first : ClassDeclaration) (rest : List ClassDeclaration) :
    (rest.foldl merge first).isStatic = (first :: rest).any (·.isStatic) := by
  induction rest generalizing first with
  | nil => simp
  | cons part rest ih =>
    have hmerge : (first.merge part).isStatic = (first.isStatic || part.isStatic) := rfl
    rw [List.foldl_cons, ih, List.any_cons, hmerge, Bool.or_assoc, List.any_cons, List.any_cons]

/-! ## The parts of a collected class -/

/-- A class after one more part is one that the part does not belong to, the one that it was merged
into, or the part itself when it is the first of its identity. -/
theorem mem_insert {part c : ClassDeclaration} {classes : List ClassDeclaration}
    (hnodup : (classes.map identity).Nodup) (h : c ∈ part.insert classes) :
    (c ∈ classes ∧ c.identity ≠ part.identity) ∨
      (∃ old ∈ classes, old.identity = part.identity ∧ c = old.merge part) ∨
      (c = part ∧ part.identity ∉ classes.map identity) := by
  induction classes with
  | nil => exact .inr (.inr ⟨List.mem_singleton.1 h, List.not_mem_nil⟩)
  | cons old classes ih =>
    rw [List.map_cons, List.nodup_cons] at hnodup
    obtain ⟨hold, hclasses⟩ := hnodup
    rw [insert] at h
    split at h
    · rename_i hsame
      rcases List.mem_cons.1 h with rfl | h
      · exact .inr (.inl ⟨old, List.mem_cons_self, hsame, rfl⟩)
      · -- The identity of the part is taken by `old`, so no other class has it.
        refine .inl ⟨List.mem_cons_of_mem old h, fun hc => hold ?_⟩
        rw [hsame, ← hc]
        exact List.mem_map_of_mem h
    · rename_i hother
      rcases List.mem_cons.1 h with rfl | h
      · exact .inl ⟨List.mem_cons_self, hother⟩
      rcases ih hclasses h with ⟨hc, hne⟩ | ⟨into, hinto, hmerged⟩ | ⟨rfl, hnew⟩
      · exact .inl ⟨List.mem_cons_of_mem old hc, hne⟩
      · exact .inr (.inl ⟨into, List.mem_cons_of_mem old hinto, hmerged⟩)
      · refine .inr (.inr ⟨rfl, ?_⟩)
        rw [List.map_cons, List.mem_cons, not_or]
        exact ⟨fun hc => hother hc.symm, hnew⟩

/-- A collected class is the first declaration of its identity with the later ones merged into
it. -/
theorem exists_parts (ds : List ClassDeclaration) :
    ∀ c ∈ ds.foldl (fun classes part => part.insert classes) [],
      ∃ first rest, ds.filter (·.identity = c.identity) = first :: rest ∧
        c = rest.foldl merge first := by
  induction ds using List.reverseRecOn with
  | nil => simp
  | append_singleton ds part ih =>
    intro c hc
    rw [List.foldl_append, List.foldl_cons, List.foldl_nil] at hc
    have hidentities := identities_foldl_insert ds
    have hnodup := nodup_eraseDups (ds.map (·.identity))
    rw [← hidentities] at hnodup
    rw [List.filter_append]
    rcases mem_insert hnodup hc with ⟨hc, hne⟩ | ⟨old, hold, hsame, rfl⟩ | ⟨rfl, hnew⟩
    · obtain ⟨first, rest, hparts, hc⟩ := ih c hc
      have hpart : [part].filter (fun d => identity d = c.identity) = [] := by simp [Ne.symm hne]
      exact ⟨first, rest, by rw [hparts, hpart, List.append_nil], hc⟩
    · obtain ⟨first, rest, hparts, hmerged⟩ := ih old hold
      have hmerge : (old.merge part).identity = old.identity := rfl
      have hpart : [part].filter (fun d => identity d = old.identity) = [part] := by simp [hsame]
      refine ⟨first, rest ++ [part], ?_, ?_⟩
      · rw [hmerge, hparts, hpart, List.cons_append]
      · rw [List.foldl_append, ← hmerged, List.foldl_cons, List.foldl_nil]
    · rw [hidentities, List.mem_eraseDups] at hnew
      have hbefore : ds.filter (·.identity = c.identity) = [] := by
        refine List.filter_eq_nil_iff.2 fun d hd => ?_
        have hne : d.identity ≠ c.identity := fun h => hnew (h ▸ List.mem_map_of_mem hd)
        simpa using hne
      exact ⟨c, [], by simp [hbefore], rfl⟩

/-! ## Classes and sites -/

/-- The class holds what the class nodes at the sites declare together. -/
structure Gathers (c : ClassDeclaration) (sites : List Site) : Prop where
  methods : c.methods = sites.flatMap (·.node.methods)
  constructors : c.constructors = sites.flatMap (·.node.constructors)
  isStatic : c.isStatic = true ↔ ∃ site ∈ sites, site.node.isStatic = true

end ClassDeclaration

/-- The sites of a unit that stand for one class. -/
def SourceUnit.sitesOf (u : SourceUnit) (identity : String × String) : List Site :=
  u.sites.filter fun site => u.identityOf site = identity

/-- The declarations of one identity are those of its sites. -/
theorem SourceUnit.filter_declarations (u : SourceUnit) (identity : String × String) :
    u.declarations.filter (·.identity = identity) =
      (u.sitesOf identity).map (Scope.ofUnit u).declare := by
  rw [u.declarations_eq, List.filter_map]
  rfl

/-- The declarations have the identities of the sites. -/
theorem SourceUnit.identities_declarations (u : SourceUnit) :
    u.declarations.map (·.identity) = u.sites.map u.identityOf := by
  rw [u.declarations_eq, List.map_map]
  exact List.map_congr_left fun site _ => u.identity_declare site

/-- A collected class holds what the nodes of its identity declare. -/
theorem gathers_of_mem_collect {u : SourceUnit} {c : ClassDeclaration} (h : c ∈ collect u) :
    c.Gathers (u.sitesOf c.identity) := by
  obtain ⟨first, rest, hparts, hc⟩ := ClassDeclaration.exists_parts u.declarations c h
  rw [u.filter_declarations] at hparts
  have hgathered {α : Type} {f : ClassDeclaration → List α}
      (hf : ∀ c part, f (ClassDeclaration.merge c part) = f c ++ f part) :
      f c = (u.sitesOf c.identity).flatMap fun site => f ((Scope.ofUnit u).declare site) := by
    calc f c = f (rest.foldl ClassDeclaration.merge first) := by rw [← hc]
      _ = (first :: rest).flatMap f := ClassDeclaration.foldl_merge_eq_flatMap hf first rest
      _ = ((u.sitesOf c.identity).map (Scope.ofUnit u).declare).flatMap f := by rw [hparts]
      _ = (u.sitesOf c.identity).flatMap fun site => f ((Scope.ofUnit u).declare site) :=
        List.flatMap_map ..
  have hstatic : c.isStatic =
      (u.sitesOf c.identity).any fun site => ((Scope.ofUnit u).declare site).isStatic := by
    calc c.isStatic = (first :: rest).any (·.isStatic) := by
          rw [← ClassDeclaration.isStatic_foldl_merge, ← hc]
      _ = ((u.sitesOf c.identity).map (Scope.ofUnit u).declare).any (·.isStatic) := by rw [hparts]
      _ = (u.sitesOf c.identity).any fun site => ((Scope.ofUnit u).declare site).isStatic :=
        List.any_map
  exact {
    methods := hgathered fun _ _ => rfl
    constructors := hgathered fun _ _ => rfl
    isStatic := by rw [hstatic, List.any_eq_true]; rfl }

/-- The classes of a unit have different identities, in the order in which the identities first
occur among its class nodes in preorder. Each class has the methods and the constructors of all
nodes of its identity, in preorder, and is static when one of these nodes is. So no method is lost
or doubled, and there are as many classes as class nodes just when no two nodes share an
identity. -/
theorem collect_gathers (u : SourceUnit) :
    (collect u).map (·.identity) = (u.sites.map u.identityOf).eraseDups ∧
      ((collect u).map (·.identity)).Nodup ∧
      (∀ c ∈ collect u, c.Gathers (u.sitesOf c.identity)) ∧
      total (fun c => c.methods.length) (collect u) =
        total (fun site => site.node.methods.length) u.sites ∧
      (collect u).length ≤ u.classCount ∧
      ((collect u).length = u.classCount ↔ (u.sites.map u.identityOf).Nodup) := by
  have hidentities : (collect u).map (·.identity) = (u.sites.map u.identityOf).eraseDups := by
    rw [identities_collect, u.identities_declarations]
  have hlength : (collect u).length = (u.sites.map u.identityOf).eraseDups.length := by
    rw [← hidentities, List.length_map]
  have hcount : u.classCount = (u.sites.map u.identityOf).length := by
    rw [List.length_map, u.length_sites]
  refine ⟨hidentities, ?_, fun c hc => gathers_of_mem_collect hc, ?_, ?_, ?_⟩
  · rw [hidentities]
    exact nodup_eraseDups _
  · rw [total_collect fun c part => List.length_append, u.declarations_eq, total_map]
    rfl
  · rw [hlength, hcount]
    exact (eraseDups_sublist _).length_le
  · rw [hlength, hcount]
    exact length_eraseDups_eq_iff _

/-- A class in two parts, the second one in a reopened namespace after a nested class of the
first. -/
theorem collect_gathers_reopened :
    let run : Method := ⟨"Run", [], "void", [], false, true⟩
    let take : Method := ⟨"Take", [], "int", [], false, false⟩
    let unit : SourceUnit := ⟨none, ["System"], none, [
      .namespaceBlock "N" [] [
        .classNode ⟨"A", false, [run], [⟨[]⟩], [⟨"B", false, [take], [], []⟩]⟩],
      .namespaceBlock "N" [] [.classNode ⟨"A", true, [take, run], [], []⟩]]⟩
    let c : ClassDeclaration := ⟨"A", "A", "N", true, [run, take, run], [⟨[]⟩], ["System"]⟩
    c ∈ collect unit ∧ c.Gathers (unit.sitesOf ("N", "A")) ∧ (collect unit).length ≠ 3 := by
  intro run take unit c
  obtain ⟨-, -, hgathers, -, -, hdistinct⟩ := collect_gathers unit
  have hc : c ∈ collect unit := by decide
  exact ⟨hc, hgathers c hc, fun h => absurd (hdistinct.1 h) (by decide)⟩

end Scaffold
