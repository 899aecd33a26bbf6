import Mathlib.Data.Finset.Card
import Mathlib.Data.List.Induction
import Scaffold.Proofs.Path
import Scaffold.Store.PathMap

/-!
# Maps from paths, by place

Two maps are the same when they have the same values at the same places, whatever the spelling of
their keys (`PathMap.Same`). Putting values at different places commutes, so putting many values
does not depend on their order, as long as values for one place agree (`PathMap.Same.putAll`).

Maps that are made from the empty one have their entries in order (`PathMap.Ordered`). So they have
one entry for a place at most, changing a value changes the one that is found there, and what is
found says all there is to say about a map (`PathMap.Ordered.same`). After many values are put into
the empty map, the last one for a place is found there (`PathMap.get?_putAll_eq_some_iff`), and
there are as many entries as places (`PathMap.size_putAll`).
-/

namespace Scaffold.PathMap

open Scaffold.Path (Component)

variable {α : Type}

/-! ## Entries by place -/

/-- The values of a map by place. -/
def places (m : PathMap α) : List (List Component × α) :=
  m.entries.map fun e => (e.1.components, e.2)

/-- Two maps have the same values at the same places. -/
def Same (m m' : PathMap α) : Prop :=
  m.places = m'.places

/-- The values by place with a value at a place. -/
def putPlace (k : List Component) (a : α) :
    List (List Component × α) → List (List Component × α)
  | [] => [(k, a)]
  | (l, b) :: rest =>
    match compare k l with
    | .lt => (k, a) :: (l, b) :: rest
    | .eq => (l, a) :: rest
    | .gt => (l, b) :: putPlace k a rest

/-- A value is put at the place of its path. -/
theorem places_put (m : PathMap α) (p : Path) (a : α) :
    (m.put p a).places = putPlace p.components a m.places := by
  obtain ⟨entries⟩ := m
  simp only [places, put, alter]
  induction entries with
  | nil => rfl
  | cons e rest ih =>
    simp only [alterEntries, List.map_cons, putPlace, Path.order]
    cases compare p.components e.1.components with
    | lt => rfl
    | eq => rfl
    | gt => simp only [List.map_cons, ih]

/-- Putting a value at an earlier place and one at a later place commutes. -/
theorem putPlace_comm_of_lt {k l : List Component} (h : compare k l = .lt) (a b : α)
    (entries : List (List Component × α)) :
    putPlace k a (putPlace l b entries) = putPlace l b (putPlace k a entries) := by
  have hgt : compare l k = .gt := Std.OrientedCmp.gt_of_lt h
  -- Before an entry at `x` there are three cases for `k`. Where `k` does not come first, neither
  -- does `l`, so only the first case splits again.
  induction entries with
  | nil => simp [putPlace, h, hgt]
  | cons e rest ih =>
    obtain ⟨x, c⟩ := e
    cases hk : compare k x with
    | lt => cases hl : compare l x <;> simp [putPlace, h, hgt, hk, hl]
    | eq =>
      obtain rfl := Std.LawfulEqOrd.eq_of_compare hk
      simp [putPlace, hgt]
    | gt =>
      have hl : compare l x = .gt := Std.TransCmp.gt_trans hgt hk
      simp [putPlace, hk, hl, ih]

/-- Putting values at two places commutes, unless they are different values for one place. -/
theorem putPlace_comm {k l : List Component} {a b : α} (h : k = l → a = b)
    (entries : List (List Component × α)) :
    putPlace k a (putPlace l b entries) = putPlace l b (putPlace k a entries) := by
  -- Either place may be the earlier one.
  cases hkl : compare k l with
  | lt => exact putPlace_comm_of_lt hkl a b entries
  | eq =>
    obtain rfl := Std.LawfulEqOrd.eq_of_compare hkl
    rw [h rfl]
  | gt => exact (putPlace_comm_of_lt (Std.OrientedCmp.lt_of_gt hkl) b a entries).symm

/-! ## Looking up -/

variable {p q r : Path} {a : α} {rest : List (Path × α)}

theorem get?_cons_of_same (h : r.Same q) : get? ⟨(r, a) :: rest⟩ q = some a := by
  have hr : r.components = q.components := h
  simp [get?, hr]

theorem get?_cons_of_not_same (h : ¬ r.Same q) : get? ⟨(r, a) :: rest⟩ q = get? ⟨rest⟩ q := by
  have hr : r.components ≠ q.components := h
  simp [get?, hr]

theorem alter_cons_of_lt (h : p.order r = .lt) (f : Option α → α) :
    alter ⟨(r, a) :: rest⟩ p f = ⟨(p, f none) :: (r, a) :: rest⟩ := by
  simp [alter, alterEntries, h]

theorem alter_cons_of_eq (h : p.order r = .eq) (f : Option α → α) :
    alter ⟨(r, a) :: rest⟩ p f = ⟨(r, f (some a)) :: rest⟩ := by
  simp [alter, alterEntries, h]

theorem alter_cons_of_gt (h : p.order r = .gt) (f : Option α → α) :
    alter ⟨(r, a) :: rest⟩ p f = ⟨(r, a) :: (alter ⟨rest⟩ p f).entries⟩ := by
  simp [alter, alterEntries, h]

/-- A value that changes at another place does not change the value at a place. -/
theorem get?_alter_of_not_same (m : PathMap α) (h : ¬ p.Same q) (f : Option α → α) :
    (m.alter p f).get? q = m.get? q := by
  obtain ⟨entries⟩ := m
  induction entries with
  | nil => exact get?_cons_of_not_same h
  | cons e rest ih =>
    obtain ⟨r, a⟩ := e
    cases horder : p.order r with
    | lt => rw [alter_cons_of_lt horder, get?_cons_of_not_same h]
    | eq =>
      have hpr : p.Same r := Path.order_eq_eq.1 horder
      have hr : ¬ r.Same q := fun hr => h (hpr.trans hr)
      rw [alter_cons_of_eq horder, get?_cons_of_not_same hr, get?_cons_of_not_same hr]
    | gt =>
      rw [alter_cons_of_gt horder]
      by_cases hr : r.Same q
      · rw [get?_cons_of_same hr, get?_cons_of_same hr]
      · rw [get?_cons_of_not_same hr, get?_cons_of_not_same hr]
        exact ih

/-- A value that is put at another place does not change the value at a place. -/
theorem get?_put_of_not_same (m : PathMap α) (h : ¬ p.Same q) (a : α) :
    (m.put p a).get? q = m.get? q :=
  get?_alter_of_not_same m h fun _ => a

/-- The value that was put at a place is there, under every spelling of the place. -/
theorem get?_put_of_same (m : PathMap α) (h : p.Same q) (a : α) : (m.put p a).get? q = some a := by
  obtain ⟨entries⟩ := m
  rw [put]
  induction entries with
  | nil => exact get?_cons_of_same h
  | cons e rest ih =>
    obtain ⟨r, b⟩ := e
    cases horder : p.order r with
    | lt => rw [alter_cons_of_lt horder, get?_cons_of_same h]
    | eq =>
      have hpr : p.Same r := Path.order_eq_eq.1 horder
      rw [alter_cons_of_eq horder, get?_cons_of_same (hpr.symm.trans h)]
    | gt =>
      have hr : ¬ r.Same q := Path.not_same_of_order_ne h (by simp [horder])
      rw [alter_cons_of_gt horder, get?_cons_of_not_same hr]
      exact ih

/-- There is a value exactly when one is found. -/
theorem has_eq_isSome (m : PathMap α) (q : Path) : m.has q = (m.get? q).isSome := by
  unfold has get?
  rw [Option.isSome_map, List.isSome_find?]

theorem has_congr (m : PathMap α) (h : p.Same q) : m.has p = m.has q := by
  have hcomponents : p.components = q.components := h
  unfold has
  rw [hcomponents]

/-- After a value is put, there is one at its place and where there was one before. -/
theorem has_put_iff {m : PathMap α} : (m.put p a).has q = true ↔ p.Same q ∨ m.has q = true := by
  rw [has_eq_isSome, has_eq_isSome]
  by_cases h : p.Same q
  · rw [get?_put_of_same m h]
    simp [h]
  · rw [get?_put_of_not_same m h]
    simp [h]

/-! ## Maps in order -/

/-- The entries of a map are in the strict order of their keys. -/
def Ordered (m : PathMap α) : Prop :=
  m.entries.Pairwise fun e e' => e.1.order e'.1 = .lt

theorem ordered_empty : (empty : PathMap α).Ordered :=
  List.Pairwise.nil

/-- A key of a map with a changed value is the changed key or was there before. -/
theorem key_of_mem_alter {m : PathMap α} {f : Option α → α} {e : Path × α}
    (h : e ∈ (m.alter p f).entries) : e.1 = p ∨ ∃ e' ∈ m.entries, e'.1 = e.1 := by
  obtain ⟨entries⟩ := m
  induction entries with
  | nil =>
    obtain rfl : e = (p, f none) := List.mem_singleton.1 h
    exact .inl rfl
  | cons x rest ih =>
    obtain ⟨r, a⟩ := x
    cases horder : p.order r with
    | lt =>
      rw [alter_cons_of_lt horder] at h
      obtain rfl | h := List.mem_cons.1 h
      · exact .inl rfl
      · exact .inr ⟨e, h, rfl⟩
    | eq =>
      rw [alter_cons_of_eq horder] at h
      obtain rfl | h := List.mem_cons.1 h
      · exact .inr ⟨(r, a), List.mem_cons_self, rfl⟩
      · exact .inr ⟨e, List.mem_cons_of_mem _ h, rfl⟩
    | gt =>
      rw [alter_cons_of_gt horder] at h
      obtain rfl | h := List.mem_cons.1 h
      · exact .inr ⟨(r, a), List.mem_cons_self, rfl⟩
      · obtain hp | ⟨e', he', hkey⟩ := ih h
        · exact .inl hp
        · exact .inr ⟨e', List.mem_cons_of_mem _ he', hkey⟩

/-- Changing a value keeps a map in order. -/
theorem Ordered.alter {m : PathMap α} (hm : m.Ordered) (p : Path) (f : Option α → α) :
    (m.alter p f).Ordered := by
  obtain ⟨entries⟩ := m
  induction entries with
  | nil => exact List.pairwise_singleton _ _
  | cons x rest ih =>
    obtain ⟨r, a⟩ := x
    obtain ⟨hr, hrest⟩ := List.pairwise_cons.1 hm
    cases horder : p.order r with
    | lt =>
      rw [alter_cons_of_lt horder]
      refine List.pairwise_cons.2 ⟨fun e he => ?_, hm⟩
      obtain rfl | he := List.mem_cons.1 he
      · exact horder
      · exact Std.TransCmp.lt_trans horder (hr e he)
    | eq =>
      rw [alter_cons_of_eq horder]
      exact List.pairwise_cons.2 ⟨hr, hrest⟩
    | gt =>
      rw [alter_cons_of_gt horder]
      refine List.pairwise_cons.2 ⟨fun e he => ?_, ih hrest⟩
      obtain hp | ⟨e', he', hkey⟩ := key_of_mem_alter he
      · rw [hp]
        exact Std.OrientedCmp.lt_of_gt horder
      · rw [← hkey]
        exact hr e' he'

/-- In a map in order, no key that comes after a key is the same place. -/
theorem Ordered.get?_rest {r : Path} {a : α} {rest : List (Path × α)}
    (h : Ordered ⟨(r, a) :: rest⟩) (hq : q.order r = .lt ∨ q.order r = .eq) :
    get? ⟨rest⟩ q = none := by
  have hr := (List.pairwise_cons.1 h).1
  rw [get?, Option.map_eq_none_iff, List.find?_eq_none]
  intro e he hsame
  have hqe : q.order e.1 = .lt := by
    obtain hlt | heq := hq
    · exact Std.TransCmp.lt_trans hlt (hr e he)
    · exact Std.TransCmp.lt_of_eq_of_lt heq (hr e he)
  have heq : q.order e.1 = .eq := Path.order_eq_eq.2 (of_decide_eq_true hsame).symm
  rw [heq] at hqe
  cases hqe

/-- In a map in order, the value that changes at a place is the one that is found there. -/
theorem Ordered.get?_alter_of_same {m : PathMap α} (hm : m.Ordered) (h : p.Same q)
    (f : Option α → α) : (m.alter p f).get? q = some (f (m.get? q)) := by
  obtain ⟨entries⟩ := m
  induction entries with
  | nil => exact get?_cons_of_same h
  | cons x rest ih =>
    obtain ⟨r, a⟩ := x
    cases horder : p.order r with
    | lt =>
      have hr : ¬ r.Same q := Path.not_same_of_order_ne h (by simp [horder])
      have hq : q.order r = .lt := (Path.order_congr_left h r).symm.trans horder
      rw [alter_cons_of_lt horder, get?_cons_of_same h, get?_cons_of_not_same hr,
        hm.get?_rest (.inl hq)]
    | eq =>
      have hr : r.Same q := (Path.order_eq_eq.1 horder).symm.trans h
      rw [alter_cons_of_eq horder, get?_cons_of_same hr, get?_cons_of_same hr]
    | gt =>
      have hr : ¬ r.Same q := Path.not_same_of_order_ne h (by simp [horder])
      rw [alter_cons_of_gt horder, get?_cons_of_not_same hr, get?_cons_of_not_same hr]
      exact ih (List.pairwise_cons.1 hm).2

/-- In a map in order, a value is found at a place exactly when an entry has it there. -/
theorem Ordered.get?_eq_some_iff {m : PathMap α} (hm : m.Ordered) :
    m.get? q = some a ↔ ∃ p, p.Same q ∧ (p, a) ∈ m.entries := by
  obtain ⟨entries⟩ := m
  induction entries with
  | nil => simp [get?]
  | cons x rest ih =>
    obtain ⟨r, b⟩ := x
    have ih := ih (List.pairwise_cons.1 hm).2
    by_cases hr : r.Same q
    · -- No entry behind this one is at the place.
      have hnone := hm.get?_rest (.inr (Path.order_eq_eq.2 hr.symm))
      have hrest : ¬ ∃ p, p.Same q ∧ (p, a) ∈ rest := by
        rw [← ih, hnone]
        exact nofun
      rw [get?_cons_of_same hr, Option.some.injEq]
      constructor
      · rintro rfl
        exact ⟨r, hr, List.mem_cons_self⟩
      · rintro ⟨p, hp, hmem⟩
        obtain heq | hmem := List.mem_cons.1 hmem
        · exact (Prod.mk.inj heq).2.symm
        · exact absurd ⟨p, hp, hmem⟩ hrest
    · rw [get?_cons_of_not_same hr, ih]
      constructor
      · rintro ⟨p, hp, hmem⟩
        exact ⟨p, hp, List.mem_cons_of_mem _ hmem⟩
      · rintro ⟨p, hp, hmem⟩
        obtain heq | hmem := List.mem_cons.1 hmem
        · rw [(Prod.mk.inj heq).1] at hp
          exact absurd hp hr
        · exact ⟨p, hp, hmem⟩

/-- In a map in order, no two keys are the same place. -/
theorem Ordered.nodup_keys {m : PathMap α} (hm : m.Ordered) :
    (m.entries.map (·.1.components)).Nodup := by
  refine List.pairwise_map.2 (hm.imp fun {x y} hlt heq => ?_)
  rw [Path.order_eq_eq.2 heq] at hlt
  cases hlt

/-- Maps in order are the same when they have the same values at the same places. -/
theorem Ordered.same {m m' : PathMap α} (hm : m.Ordered) (hm' : m'.Ordered)
    (h : ∀ q, m.get? q = m'.get? q) : m.Same m' := by
  have hsorted {m : PathMap α} (hm : m.Ordered) :
      m.places.Pairwise fun x y => compare x.1 y.1 = .lt :=
    List.pairwise_map.2 hm
  have hnodup {m : PathMap α} (hm : m.Ordered) : m.places.Nodup := by
    refine List.Nodup.of_map Prod.fst ?_
    rw [places, List.map_map]
    exact hm.nodup_keys
  have hmem {m : PathMap α} (hm : m.Ordered) (x : List Component × α) :
      x ∈ m.places ↔ ∃ q : Path, q.components = x.1 ∧ m.get? q = some x.2 := by
    constructor
    · intro hx
      obtain ⟨e, he, rfl⟩ := List.mem_map.1 hx
      exact ⟨e.1, rfl, hm.get?_eq_some_iff.2 ⟨e.1, rfl, he⟩⟩
    · rintro ⟨q, hq, hget⟩
      obtain ⟨p, hp, he⟩ := hm.get?_eq_some_iff.1 hget
      have hx : (p.components, x.2) = x := Prod.ext (hp.trans hq) rfl
      exact hx ▸ List.mem_map_of_mem he
  -- Both lists have the same entries, and a strict order leaves them one arrangement.
  have hperm : m.places.Perm m'.places := by
    refine (List.perm_ext_iff_of_nodup (hnodup hm) (hnodup hm')).2 fun x => ?_
    simp only [hmem hm, hmem hm', h]
  refine hperm.eq_of_pairwise (fun x y _ _ hxy hyx => ?_) (hsorted hm) (hsorted hm')
  rw [Std.OrientedCmp.gt_of_lt hxy] at hyx
  cases hyx

/-! ## Many values -/

/-- The map with many values, put one after the other. -/
def putAll (m : PathMap α) (values : List (Path × α)) : PathMap α :=
  values.foldl (fun m e => m.put e.1 e.2) m

theorem putAll_append (m : PathMap α) (values values' : List (Path × α)) :
    m.putAll (values ++ values') = (m.putAll values).putAll values' :=
  List.foldl_append

/-- Values that are put at other places do not change the value at a place. -/
theorem get?_putAll {values : List (Path × α)} {q : Path} (h : ∀ e ∈ values, ¬ e.1.Same q)
    (m : PathMap α) : (m.putAll values).get? q = m.get? q := by
  induction values generalizing m with
  | nil => rfl
  | cons e rest ih =>
    obtain ⟨he, hrest⟩ := List.forall_mem_cons.1 h
    exact (ih hrest (m.put e.1 e.2)).trans (get?_put_of_not_same m he e.2)

/-- A value is the last one for a place. -/
def LastFor (values : List (Path × α)) (q : Path) (a : α) : Prop :=
  ∃ before p after, values = before ++ (p, a) :: after ∧ p.Same q ∧ ∀ e ∈ after, ¬ e.1.Same q

/-- Where there is a value for a place, there is a last one. -/
theorem exists_lastFor {values : List (Path × α)} {q : Path} (h : ∃ e ∈ values, e.1.Same q) :
    ∃ a, LastFor values q a := by
  induction values using List.reverseRecOn with
  | nil =>
    obtain ⟨e, he, -⟩ := h
    cases he
  | append_singleton values last ih =>
    by_cases hlast : last.1.Same q
    · exact ⟨last.2, values, last.1, [], rfl, hlast, nofun⟩
    · obtain ⟨e, he, hsame⟩ := h
      have he : e ∈ values := by
        rcases List.mem_append.1 he with he | he
        · exact he
        · obtain rfl := List.mem_singleton.1 he
          exact absurd hsame hlast
      obtain ⟨a, before, p, after, rfl, hp, hafter⟩ := ih ⟨e, he, hsame⟩
      refine ⟨a, before, p, after ++ [last], by simp, hp, fun e' he' => ?_⟩
      rcases List.mem_append.1 he' with he' | he'
      · exact hafter e' he'
      · obtain rfl := List.mem_singleton.1 he'
        exact hlast

/-- The last value for a place is found there. -/
theorem LastFor.get?_putAll {values : List (Path × α)} {q : Path} {a : α}
    (h : LastFor values q a) (m : PathMap α) : (m.putAll values).get? q = some a := by
  obtain ⟨before, p, after, rfl, hp, hafter⟩ := h
  have hsplit : before ++ (p, a) :: after = before ++ ([(p, a)] ++ after) := rfl
  rw [hsplit, putAll_append, putAll_append, PathMap.get?_putAll hafter]
  exact get?_put_of_same _ hp a

/-- Nothing is found where no value was put into the empty map. -/
theorem get?_putAll_eq_none_iff {values : List (Path × α)} {q : Path} :
    (empty.putAll values).get? q = none ↔ ∀ e ∈ values, ¬ e.1.Same q := by
  constructor
  · intro hnone e he hsame
    obtain ⟨a, hlast⟩ := exists_lastFor ⟨e, he, hsame⟩
    rw [hlast.get?_putAll] at hnone
    cases hnone
  · intro h
    rw [get?_putAll h]
    rfl

/-- What is found after values were put into the empty map is the last one for the place. -/
theorem get?_putAll_eq_some_iff {values : List (Path × α)} {q : Path} {a : α} :
    (empty.putAll values).get? q = some a ↔ LastFor values q a := by
  constructor
  · intro hsome
    have hex : ∃ e ∈ values, e.1.Same q := by
      by_contra hnone
      have hget : (empty.putAll values).get? q = none :=
        get?_putAll_eq_none_iff.2 fun e he hsame => hnone ⟨e, he, hsame⟩
      rw [hget] at hsome
      cases hsome
    obtain ⟨a', hlast⟩ := exists_lastFor hex
    rw [hlast.get?_putAll] at hsome
    obtain rfl := Option.some.inj hsome
    exact hlast
  · exact fun h => h.get?_putAll empty

theorem Ordered.putAll {m : PathMap α} (hm : m.Ordered) (values : List (Path × α)) :
    (m.putAll values).Ordered := by
  induction values generalizing m with
  | nil => exact hm
  | cons e rest ih => exact ih (hm.alter e.1 fun _ => e.2)

/-- There are as many entries as places that a value was put at. -/
theorem size_putAll (values : List (Path × α)) :
    (empty.putAll values).size = (values.map (·.1.components)).toFinset.card := by
  have hordered : (empty.putAll values).Ordered := ordered_empty.putAll values
  have hkeys (k : List Component) :
      k ∈ (empty.putAll values).entries.map (·.1.components) ↔ k ∈ values.map (·.1.components) := by
    constructor
    · intro hk
      obtain ⟨e, he, rfl⟩ := List.mem_map.1 hk
      have hget : (empty.putAll values).get? e.1 = some e.2 :=
        hordered.get?_eq_some_iff.2 ⟨e.1, rfl, he⟩
      obtain ⟨before, p, after, rfl, hp, -⟩ := get?_putAll_eq_some_iff.1 hget
      have hp : p.components = e.1.components := hp
      rw [← hp]
      exact List.mem_map_of_mem (List.mem_append_right before List.mem_cons_self)
    · intro hk
      obtain ⟨e, he, rfl⟩ := List.mem_map.1 hk
      obtain ⟨a, hlast⟩ := exists_lastFor ⟨e, he, rfl⟩
      obtain ⟨p, hp, hmem⟩ := hordered.get?_eq_some_iff.1 (hlast.get?_putAll empty)
      have hp : p.components = e.1.components := hp
      rw [← hp]
      exact List.mem_map_of_mem hmem
  have hfinset : (values.map (·.1.components)).toFinset =
      ((empty.putAll values).entries.map (·.1.components)).toFinset := by
    ext k
    rw [List.mem_toFinset, List.mem_toFinset]
    exact (hkeys k).symm
  rw [hfinset, List.toFinset_card_of_nodup hordered.nodup_keys, List.length_map]
  rfl

theorem places_putAll (m : PathMap α) (values : List (Path × α)) :
    (m.putAll values).places =
      values.foldl (fun places e => putPlace e.1.components e.2 places) m.places := by
  induction values generalizing m with
  | nil => rfl
  | cons e rest ih => rw [putAll, List.foldl_cons, ← putAll, ih, places_put, List.foldl_cons]

/-- The order in which values are put does not matter, as long as values for one place agree. -/
theorem Same.putAll {values values' : List (Path × α)} (hperm : values.Perm values')
    (h : ∀ e ∈ values, ∀ f ∈ values, e.1.Same f.1 → e.2 = f.2) (m : PathMap α) :
    (m.putAll values).Same (m.putAll values') := by
  rw [Same, places_putAll, places_putAll]
  refine hperm.foldl_eq' (fun e he f hf places => ?_) _
  exact putPlace_comm (fun hsame => (h e he f hf hsame.symm).symm) places

end Scaffold.PathMap
