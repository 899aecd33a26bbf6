import Scaffold.CSharp.Grammar
import Scaffold.CSharp.Tree

/-!
# Trees that fit the grammar

In a tree without faults every phrase is made as the grammar says: its parts, but for the comments
and directives between them, fit the pattern of the phrase. `Fits` relates a pattern to the nodes
that stand side by side in its place; it does not look into them. `Node.Conforms` says that a node
is made so, and every node in it. A hidden phrase has no node of its own: its parts stand among
those of the phrase around it and play the role that the hidden phrase plays there.

What can stand among the parts of a phrase is read off the grammar by a check of its patterns
(`Fits.allowed`), and whether a given tree conforms can be computed (`Node.conforms_of_checks`).
-/

namespace Scaffold.CSharp

/-- The text that all occurrences of a token have, if there is one. -/
def Token.fixedText? : Token → Option String
  | word text | mark text | tightMark text => some text
  | _ => none

/-- The nodes are made as the pattern says. Each plays the role `role`, or the one that the pattern
gives it, unless a hidden phrase around the pattern plays the role `outer`. -/
inductive Fits : Pattern → Option Role → Option Role → List Node → Prop
  | token {t : Token} {outer role : Option Role} {n : Node} (kind : n.kind = .token t)
      (plays : n.role = outer.or role) : Fits (.token t) outer role [n]
  | visible {p : Phrase} {outer role : Option Role} {n : Node} (shown : p.isHidden = false)
      (kind : n.kind = .phrase p) (plays : n.role = outer.or role) : Fits (.phrase p) outer role [n]
  | hidden {p : Phrase} {outer role : Option Role} {ns : List Node} (notShown : p.isHidden = true)
      (parts : Fits p.pattern (outer.or role) none ns) : Fits (.phrase p) outer role ns
  | nothing {outer role : Option Role} : Fits (.sequence []) outer role []
  | andThen {p : Pattern} {ps : List Pattern} {outer role : Option Role} {xs ys : List Node}
      (first : Fits p outer role xs) (rest : Fits (.sequence ps) outer role ys) :
      Fits (.sequence (p :: ps)) outer role (xs ++ ys)
  | oneOf {p : Pattern} {ps : List Pattern} {outer role : Option Role} {ns : List Node}
      (mem : p ∈ ps) (one : Fits p outer role ns) : Fits (.choice ps) outer role ns
  | noMore {p : Pattern} {outer role : Option Role} : Fits (.repeated p) outer role []
  | onceMore {p : Pattern} {outer role : Option Role} {xs ys : List Node}
      (once : Fits p outer role xs) (more : Fits (.repeated p) outer role ys) :
      Fits (.repeated p) outer role (xs ++ ys)
  | left {p : Pattern} {outer role : Option Role} : Fits (.optional p) outer role []
  | taken {p : Pattern} {outer role : Option Role} {ns : List Node} (part : Fits p outer role ns) :
      Fits (.optional p) outer role ns
  | labelled {p : Pattern} {outer role : Option Role} {label : Role} {ns : List Node}
      (part : Fits p outer (some label) ns) : Fits (.labelled label p) outer role ns

namespace Node

/-- Whether a node is a comment or a directive between the parts of a phrase. -/
def isTrivia (n : Node) : Bool :=
  n.kind = .comment || n.kind = .directive

/-- The parts of a node that the grammar speaks of. -/
def constituents (n : Node) : List Node :=
  n.parts.filter (!·.isTrivia)

/-- A phrase has the parts that the grammar gives it. Tokens, comments and directives have none. -/
def IsMade (n : Node) : Prop :=
  match n.kind with
  | .phrase p => p.isHidden = false ∧ Fits p.pattern none none n.constituents
  | .token t => n.parts = [] ∧ ∀ text ∈ t.fixedText?, n.text = text
  | .comment | .directive => n.parts = [] ∧ n.role = none
  | .unread | .missing _ => False

/-- Every node in a node is made as the grammar says. -/
inductive Conforms : Node → Prop
  | intro {n : Node} (isMade : n.IsMade) (parts : ∀ m ∈ n.parts, m.Conforms) : n.Conforms

end Node

/-! ## Taking a fit apart -/

namespace Fits

variable {p : Pattern} {ps : List Pattern} {outer role : Option Role} {ns : List Node}

theorem sequence_nil_iff : Fits (.sequence []) outer role ns ↔ ns = [] := by
  constructor
  · intro h
    cases h
    rfl
  · rintro rfl
    exact nothing

theorem sequence_cons_iff : Fits (.sequence (p :: ps)) outer role ns ↔
    ∃ xs ys, ns = xs ++ ys ∧ Fits p outer role xs ∧ Fits (.sequence ps) outer role ys := by
  constructor
  · intro h
    cases h with
    | andThen first rest => exact ⟨_, _, rfl, first, rest⟩
  · rintro ⟨xs, ys, rfl, first, rest⟩
    exact first.andThen rest

/-- The last pattern of a sequence can be split off. -/
theorem sequence_concat_iff : Fits (.sequence (ps ++ [p])) outer role ns ↔
    ∃ xs ys, ns = xs ++ ys ∧ Fits (.sequence ps) outer role xs ∧ Fits p outer role ys := by
  induction ps generalizing ns with
  | nil =>
    rw [List.nil_append, sequence_cons_iff]
    constructor
    · rintro ⟨xs, ys, rfl, hxs, hys⟩
      exact ⟨[], xs, by rw [sequence_nil_iff.1 hys, List.append_nil, List.nil_append], nothing, hxs⟩
    · rintro ⟨xs, ys, rfl, hxs, hys⟩
      exact ⟨ys, [], by rw [sequence_nil_iff.1 hxs, List.append_nil, List.nil_append], hys, nothing⟩
  | cons q ps ih =>
    rw [List.cons_append, sequence_cons_iff]
    constructor
    · rintro ⟨xs, zs, rfl, hxs, hzs⟩
      obtain ⟨ys, last, rfl, hys, hlast⟩ := ih.1 hzs
      exact ⟨xs ++ ys, last, (List.append_assoc ..).symm, hxs.andThen hys, hlast⟩
    · rintro ⟨xs, last, rfl, hxs, hlast⟩
      obtain ⟨first, ys, rfl, hfirst, hys⟩ := sequence_cons_iff.1 hxs
      exact ⟨first, ys ++ last, List.append_assoc .., hfirst, ih.2 ⟨ys, last, rfl, hys, hlast⟩⟩

theorem labelled_iff {label : Role} :
    Fits (.labelled label p) outer role ns ↔ Fits p outer (some label) ns := by
  constructor
  · intro h
    cases h with
    | labelled part => exact part
  · exact labelled

/-- What fits a phrase that is shown is one node of that phrase. -/
theorem exists_of_visible {q : Phrase} (hshown : q.isHidden = false)
    (h : Fits (.phrase q) outer role ns) :
    ∃ n, ns = [n] ∧ n.kind = .phrase q ∧ n.role = outer.or role := by
  cases h with
  | visible _ kind plays => exact ⟨_, rfl, kind, plays⟩
  | hidden notShown => exact absurd hshown (by simp [notShown])

/-- The parts of a hidden phrase stand in its place. -/
theorem of_hidden {q : Phrase} (hhidden : q.isHidden = true) (h : Fits (.phrase q) outer role ns) :
    Fits q.pattern (outer.or role) none ns := by
  cases h with
  | visible shown => exact absurd hhidden (by simp [shown])
  | hidden _ parts => exact parts

/-- What fits a token is one node of that token. -/
theorem exists_of_token {t : Token} (h : Fits (.token t) outer role ns) :
    ∃ n, ns = [n] ∧ n.kind = .token t := by
  cases h with
  | token kind => exact ⟨_, rfl, kind⟩

/-- A sequence that begins with a token fits a node of that token and what follows it. -/
theorem exists_of_token_sequence {t : Token}
    (h : Fits (.sequence (.token t :: ps)) outer role ns) :
    ∃ n rest, ns = n :: rest ∧ n.kind = .token t ∧ Fits (.sequence ps) outer role rest := by
  obtain ⟨xs, rest, rfl, hxs, hrest⟩ := sequence_cons_iff.1 h
  obtain ⟨n, rfl, hkind⟩ := exists_of_token hxs
  exact ⟨n, rest, rfl, hkind, hrest⟩

theorem sequence_singleton_iff : Fits (.sequence [p]) outer role ns ↔ Fits p outer role ns := by
  constructor
  · intro h
    obtain ⟨xs, rest, rfl, hxs, hrest⟩ := sequence_cons_iff.1 h
    rwa [sequence_nil_iff.1 hrest, List.append_nil]
  · intro h
    have hsequence := h.andThen (nothing : Fits (.sequence []) outer role [])
    rwa [List.append_nil] at hsequence

/-- What fits one of some phrases fits a phrase among them. -/
theorem exists_of_phrases {qs : List Phrase} (h : Fits (.phrases qs) outer role ns) :
    ∃ q ∈ qs, Fits (.phrase q) outer role ns := by
  cases h with
  | oneOf mem one =>
    obtain ⟨q, hq, rfl⟩ := List.mem_map.1 mem
    exact ⟨q, hq, one⟩

/-- What fits a repetition falls into lists that fit the pattern. -/
theorem exists_of_repeated (h : Fits (.repeated p) outer role ns) :
    ∃ nss : List (List Node), ns = nss.flatten ∧ ∀ xs ∈ nss, Fits p outer role xs := by
  -- The induction is on the fit, in which the repetition is named to keep it as it is.
  generalize hq : Pattern.repeated p = q at h
  induction h with
  | noMore => exact ⟨[], rfl, fun xs hxs => absurd hxs List.not_mem_nil⟩
  | @onceMore q outer role xs ys once more _ ihmore =>
    obtain rfl : p = q := Pattern.repeated.inj hq
    obtain ⟨nss, rfl, hnss⟩ := ihmore rfl
    exact ⟨xs :: nss, rfl, List.forall_mem_cons.2 ⟨once, hnss⟩⟩
  | _ => exact absurd hq (by simp)

end Fits

namespace Node

variable {n : Node}

theorem Conforms.constituents (h : n.Conforms) {p : Phrase} (hkind : n.kind = .phrase p) :
    Fits p.pattern none none n.constituents := by
  obtain ⟨isMade, -⟩ := h
  rw [IsMade, hkind] at isMade
  exact isMade.2

theorem Conforms.of_mem (h : n.Conforms) {m : Node} (hm : m ∈ n.parts) : m.Conforms := by
  obtain ⟨-, parts⟩ := h
  exact parts m hm

theorem isTrivia_iff : n.isTrivia = true ↔ n.kind = .comment ∨ n.kind = .directive := by
  simp [isTrivia]

/-- Comments and directives have no parts and play no role. -/
theorem Conforms.of_isTrivia (h : n.Conforms) (htrivia : n.isTrivia = true) :
    n.parts = [] ∧ n.role = none := by
  obtain ⟨isMade, -⟩ := h
  rcases isTrivia_iff.1 htrivia with hkind | hkind
  · rwa [IsMade, hkind] at isMade
  · rwa [IsMade, hkind] at isMade

theorem mem_constituents {m : Node} (hm : m ∈ n.parts) (htrivia : m.isTrivia ≠ true) :
    m ∈ n.constituents :=
  List.mem_filter.2 ⟨hm, by simpa using htrivia⟩

/-- Around a part that the grammar speaks of, there are the other such parts and trivia. -/
theorem exists_parts_of_constituents {xs ys : List Node} {m : Node}
    (h : n.constituents = xs ++ m :: ys) : ∃ front back, n.parts = front ++ m :: back ∧
      (∀ x ∈ front, x.isTrivia = true ∨ x ∈ xs) ∧ ∀ y ∈ back, y.isTrivia = true ∨ y ∈ ys := by
  -- The trivia just before the part go to the front.
  obtain ⟨front, rest, hparts, rfl, hrest⟩ := List.filter_eq_append_iff.1 h
  obtain ⟨between, back, rfl, hbetween, -, rfl⟩ := List.filter_eq_cons_iff.1 hrest
  have hfilter (ns : List Node) : ∀ x ∈ ns, x.isTrivia = true ∨ x ∈ ns.filter (!·.isTrivia) := by
    intro x hx
    by_cases htrivia : x.isTrivia = true
    · exact .inl htrivia
    · exact .inr (List.mem_filter.2 ⟨hx, by simpa using htrivia⟩)
  refine ⟨front ++ between, back, by rw [hparts, List.append_assoc], ?_, hfilter back⟩
  exact List.forall_mem_append.2
    ⟨hfilter front, fun x hx => .inl (by simpa using hbetween x hx)⟩

/-- A word or mark has the text of its token. -/
theorem Conforms.text_eq (h : n.Conforms) {t : Token} (hkind : n.kind = .token t) {text : String}
    (ht : t.fixedText? = some text) : n.text = text := by
  obtain ⟨isMade, -⟩ := h
  rw [IsMade, hkind] at isMade
  exact isMade.2 text ht

end Node

/-! ## What can stand among the parts of a phrase -/

/-- The kind of node that is read to reach a state. -/
def Label.kind : Label → Kind
  | token t => .token t
  | phrase p => .phrase p

/-- The roles that a node may play, none among them. -/
def Role.options : List (Option Role) :=
  [none, some name, some type, some returns, some parameters, some typeParameters, some body]

theorem Role.mem_options (role : Option Role) : role ∈ options := by
  rcases role with _ | role
  · decide
  · cases role <;> decide

theorem Phrase.mem_all (p : Phrase) : p ∈ all := by
  have hindex : all[p.ctorIdx]? = some p := by cases p <;> rfl
  exact List.mem_of_getElem? hindex

namespace Pattern

mutual

/-- Whether all tokens and phrases of a pattern are allowed in their roles. -/
def allows (ok : Label → Option Role → Bool) (outer : Option Role) : Pattern → Option Role → Bool
  | token t, role => ok (.token t) (outer.or role)
  | phrase p, role => ok (.phrase p) (outer.or role)
  | sequence parts, role | choice parts, role => allowsAll ok outer parts role
  | repeated part, role | optional part, role => allows ok outer part role
  | labelled label part, _ => allows ok outer part (some label)

/-- Whether all tokens and phrases of some patterns are allowed in their roles. -/
def allowsAll (ok : Label → Option Role → Bool) (outer : Option Role) :
    List Pattern → Option Role → Bool
  | [], _ => true
  | part :: parts, role => allows ok outer part role && allowsAll ok outer parts role

end

theorem allows_of_mem {ok : Label → Option Role → Bool} {outer role : Option Role} {p : Pattern}
    {ps : List Pattern} (h : p ∈ ps) (hps : allowsAll ok outer ps role = true) :
    p.allows ok outer role = true := by
  induction ps with
  | nil => exact absurd h List.not_mem_nil
  | cons q ps ih =>
    rw [allowsAll, Bool.and_eq_true] at hps
    rcases List.mem_cons.1 h with rfl | h
    · exact hps.1
    · exact ih h hps.2

end Pattern

/-- Whether a hidden phrase is allowed only where all that it stands for is. -/
def Phrase.isOpen (ok : Label → Option Role → Bool) : Bool :=
  all.all fun p => !p.isHidden ||
    Role.options.all fun role => !ok (.phrase p) role || p.pattern.allows ok role none

theorem Phrase.allows_of_isOpen {ok : Label → Option Role → Bool} (h : isOpen ok = true)
    {p : Phrase} (hhidden : p.isHidden = true) {role : Option Role}
    (hp : ok (.phrase p) role = true) : p.pattern.allows ok role none = true := by
  have hall := List.all_eq_true.1 h p p.mem_all
  rw [hhidden, Bool.not_true, Bool.false_or] at hall
  have hrole := List.all_eq_true.1 hall role (Role.mem_options role)
  rwa [hp, Bool.not_true, Bool.false_or] at hrole

/-- A node among those that fit a pattern is one that the pattern allows. -/
theorem Fits.allowed {ok : Label → Option Role → Bool} (hopen : Phrase.isOpen ok = true)
    {p : Pattern} {outer role : Option Role} {ns : List Node} (h : Fits p outer role ns)
    (hp : p.allows ok outer role = true) {n : Node} (hn : n ∈ ns) :
    ∃ label, n.kind = label.kind ∧ ok label n.role = true := by
  -- By induction on the fit. The pattern gets smaller but for a hidden phrase, and that the test
  -- goes on to hold in its pattern is what the check of the grammar says.
  induction h with
  | token kind plays =>
    rw [List.mem_singleton.1 hn, plays]
    exact ⟨.token _, kind, by rwa [Pattern.allows] at hp⟩
  | visible _ kind plays =>
    rw [List.mem_singleton.1 hn, plays]
    exact ⟨.phrase _, kind, by rwa [Pattern.allows] at hp⟩
  | hidden notShown _ ih =>
    rw [Pattern.allows] at hp
    exact ih (Phrase.allows_of_isOpen hopen notShown hp) hn
  | nothing => exact absurd hn List.not_mem_nil
  | andThen _ _ ihfirst ihrest =>
    rw [Pattern.allows, Pattern.allowsAll, Bool.and_eq_true] at hp
    rcases List.mem_append.1 hn with hn | hn
    · exact ihfirst hp.1 hn
    · exact ihrest (by rw [Pattern.allows]; exact hp.2) hn
  | oneOf mem _ ih =>
    rw [Pattern.allows] at hp
    exact ih (Pattern.allows_of_mem mem hp) hn
  | noMore => exact absurd hn List.not_mem_nil
  | onceMore _ _ ihonce ihmore =>
    rcases List.mem_append.1 hn with hn | hn
    · exact ihonce (by rwa [Pattern.allows] at hp) hn
    · exact ihmore hp hn
  | left => exact absurd hn List.not_mem_nil
  | taken _ ih => exact ih (by rwa [Pattern.allows] at hp) hn
  | labelled _ ih => exact ih (by rwa [Pattern.allows] at hp) hn

/-- The label is a token, or a phrase that passes a test. -/
def Label.isA (ok : Phrase → Bool) : Label → Bool
  | token _ => true
  | phrase p => ok p

namespace Node

variable {n : Node} {ok : Phrase → Bool}

/-- If the node is a phrase, the phrase passes a test. -/
def IsA (ok : Phrase → Bool) (n : Node) : Prop :=
  ∀ p, n.kind = .phrase p → ok p = true

theorem IsA.of_isTrivia (h : n.isTrivia = true) : n.IsA ok := by
  intro p hkind
  rcases isTrivia_iff.1 h with h | h
  · rw [h] at hkind
    exact absurd hkind (by simp)
  · rw [h] at hkind
    exact absurd hkind (by simp)

theorem IsA.mono {more : Phrase → Bool} (h : n.IsA ok) (hmore : ∀ p, ok p = true → more p = true) :
    n.IsA more :=
  fun p hkind => hmore p (h p hkind)

theorem IsA.is_eq_false (h : n.IsA ok) {p : Phrase} (hp : ok p = false) : n.is p = false :=
  decide_eq_false fun hkind => absurd (h p hkind) (by simp [hp])

theorem IsA.of_label {label : Label} (hkind : n.kind = label.kind) (h : label.isA ok = true) :
    n.IsA ok := by
  intro p hp
  rw [hkind] at hp
  cases label with
  | token t => exact absurd hp (by simp [Label.kind])
  | phrase q =>
    obtain rfl : q = p := Kind.phrase.inj hp
    exact h

/-- The parts of a phrase pass a test that the phrases of its pattern pass. -/
theorem Conforms.isA_of_mem (h : n.Conforms) {p : Phrase} (hkind : n.kind = .phrase p)
    (hopen : Phrase.isOpen (fun label _ => label.isA ok) = true)
    (hp : p.pattern.allows (fun label _ => label.isA ok) none none = true) :
    ∀ m ∈ n.parts, m.IsA ok := by
  intro m hm
  by_cases htrivia : m.isTrivia = true
  · exact .of_isTrivia htrivia
  · obtain ⟨label, hlabel, hok⟩ :=
      (h.constituents hkind).allowed hopen hp (mem_constituents hm htrivia)
    exact .of_label hlabel hok

end Node

/-! ## Checking a tree -/

namespace Pattern

/-- What can be left of nodes once some of them are read as the pattern says. At most `fuel` steps
are made into the pattern. -/
def rests : Nat → Pattern → Option Role → Option Role → List Node → List (List Node)
  | 0, _, _, _, _ => []
  | fuel + 1, pattern, outer, role, ns =>
    match pattern with
    | token t =>
      match ns with
      | n :: rest => if n.kind = .token t ∧ n.role = outer.or role then [rest] else []
      | [] => []
    | phrase p =>
      if p.isHidden then rests fuel p.pattern (outer.or role) none ns
      else
        match ns with
        | n :: rest => if n.kind = .phrase p ∧ n.role = outer.or role then [rest] else []
        | [] => []
    | sequence [] => [ns]
    | sequence (p :: ps) =>
      (rests fuel p outer role ns).flatMap (rests fuel (sequence ps) outer role)
    | choice ps => ps.flatMap fun p => rests fuel p outer role ns
    | repeated p => ns :: (rests fuel p outer role ns).flatMap (rests fuel (repeated p) outer role)
    | optional p => ns :: rests fuel p outer role ns
    | labelled label p => rests fuel p outer (some label) ns

/-- What is read fits the pattern. -/
theorem fits_of_mem_rests {fuel : Nat} {p : Pattern} {outer role : Option Role}
    {ns rest : List Node} (h : rest ∈ rests fuel p outer role ns) :
    ∃ read, ns = read ++ rest ∧ Fits p outer role read := by
  -- By induction on the steps: a hidden phrase and a repetition lead to no smaller pattern.
  induction fuel generalizing p outer role ns rest with
  | zero => exact absurd h List.not_mem_nil
  | succ fuel ih =>
    cases p with
    | token t =>
      cases ns with
      | nil => exact absurd h List.not_mem_nil
      | cons n ns =>
        simp only [rests] at h
        split at h
        · rename_i hn
          exact ⟨[n], by rw [List.mem_singleton.1 h]; rfl, .token hn.1 hn.2⟩
        · exact absurd h List.not_mem_nil
    | phrase p =>
      simp only [rests] at h
      split at h
      · rename_i hhidden
        obtain ⟨read, hns, hread⟩ := ih h
        exact ⟨read, hns, .hidden hhidden hread⟩
      · rename_i hshown
        cases ns with
        | nil => exact absurd h List.not_mem_nil
        | cons n ns =>
          simp only at h
          split at h
          · rename_i hn
            exact ⟨[n], by rw [List.mem_singleton.1 h]; rfl,
              .visible (by simpa using hshown) hn.1 hn.2⟩
          · exact absurd h List.not_mem_nil
    | sequence ps =>
      cases ps with
      | nil => exact ⟨[], by rw [List.mem_singleton.1 h]; rfl, .nothing⟩
      | cons p ps =>
        obtain ⟨middle, hmiddle, hrest⟩ := List.mem_flatMap.1 h
        obtain ⟨xs, rfl, hxs⟩ := ih hmiddle
        obtain ⟨ys, rfl, hys⟩ := ih hrest
        exact ⟨xs ++ ys, (List.append_assoc ..).symm, hxs.andThen hys⟩
    | choice ps =>
      obtain ⟨p, hp, hrest⟩ := List.mem_flatMap.1 h
      obtain ⟨read, hns, hread⟩ := ih hrest
      exact ⟨read, hns, .oneOf hp hread⟩
    | repeated p =>
      rcases List.mem_cons.1 h with rfl | h
      · exact ⟨[], rfl, .noMore⟩
      · obtain ⟨middle, hmiddle, hrest⟩ := List.mem_flatMap.1 h
        obtain ⟨xs, rfl, hxs⟩ := ih hmiddle
        obtain ⟨ys, rfl, hys⟩ := ih hrest
        exact ⟨xs ++ ys, (List.append_assoc ..).symm, hxs.onceMore hys⟩
    | optional p =>
      rcases List.mem_cons.1 h with rfl | h
      · exact ⟨[], rfl, .left⟩
      · obtain ⟨read, hns, hread⟩ := ih h
        exact ⟨read, hns, .taken hread⟩
    | labelled label p =>
      obtain ⟨read, hns, hread⟩ := ih h
      exact ⟨read, hns, .labelled hread⟩

end Pattern

namespace Node

/-- Whether a node is made as the grammar says. At most `fuel` steps are made into a pattern. -/
def isMadeWithin (fuel : Nat) (n : Node) : Bool :=
  match n.kind with
  | .phrase p =>
    !p.isHidden && (p.pattern.rests fuel none none n.constituents).any (·.isEmpty)
  | .token t => n.parts.isEmpty && t.fixedText?.all (n.text = ·)
  | .comment | .directive => n.parts.isEmpty && n.role = none
  | .unread | .missing _ => false

theorem isMade_of_isMadeWithin {fuel : Nat} {n : Node} (h : n.isMadeWithin fuel = true) :
    n.IsMade := by
  unfold isMadeWithin at h
  unfold IsMade
  split at h
  · rename_i p _
    rw [Bool.and_eq_true, Bool.not_eq_true'] at h
    obtain ⟨rest, hrest, hempty⟩ := List.any_eq_true.1 h.2
    obtain ⟨read, hread, hfits⟩ := Pattern.fits_of_mem_rests hrest
    rw [List.isEmpty_iff.1 hempty, List.append_nil] at hread
    exact ⟨h.1, hread ▸ hfits⟩
  · rename_i t _
    rw [Bool.and_eq_true, List.isEmpty_iff] at h
    refine ⟨h.1, fun text htext => ?_⟩
    simpa [Option.mem_def.1 htext] using h.2
  · simpa using h
  · simpa using h
  · exact absurd h Bool.false_ne_true
  · exact absurd h Bool.false_ne_true

mutual

/-- Whether every node in a node is made as the grammar says. -/
def checks (fuel : Nat) : Node → Bool
  | ⟨kind, role, start, text, isFlawed, parts⟩ =>
    isMadeWithin fuel ⟨kind, role, start, text, isFlawed, parts⟩ && checksAll fuel parts

/-- Whether every node in nodes is made as the grammar says. -/
def checksAll (fuel : Nat) : List Node → Bool
  | [] => true
  | n :: ns => n.checks fuel && checksAll fuel ns

end

mutual

theorem conforms_of_checks (fuel : Nat) : ∀ {n : Node}, n.checks fuel = true → n.Conforms
  | ⟨kind, role, start, text, isFlawed, parts⟩, h => by
    rw [checks, Bool.and_eq_true] at h
    exact .intro (isMade_of_isMadeWithin h.1) (conforms_of_checksAll fuel h.2)

theorem conforms_of_checksAll (fuel : Nat) :
    ∀ {ns : List Node}, checksAll fuel ns = true → ∀ n ∈ ns, n.Conforms
  | [], _ => fun n hn => absurd hn List.not_mem_nil
  | m :: ns, h => by
    rw [checksAll, Bool.and_eq_true] at h
    exact List.forall_mem_cons.2 ⟨conforms_of_checks fuel h.1, conforms_of_checksAll fuel h.2⟩

end

/-- The node of a token. -/
def ofToken (t : Token) (start : Nat) (text : String) : Node :=
  ⟨.token t, none, start, text, false, []⟩

/-- The node of a phrase. -/
def ofPhrase (p : Phrase) (role : Option Role) (start : Nat) (text : String) (parts : List Node) :
    Node :=
  ⟨.phrase p, role, start, text, false, parts⟩

/-- The node of an identifier. -/
def ofIdentifier (role : Option Role) (start : Nat) (text : String) : Node :=
  ofPhrase .identifier role start text [ofToken .identifier start text]

end Node

end Scaffold.CSharp
