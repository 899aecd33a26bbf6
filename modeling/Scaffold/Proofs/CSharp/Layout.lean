import Mathlib.Data.List.Forall2
import Scaffold.Proofs.CSharp.Outline
import Scaffold.Proofs.CSharp.Slots
import Scaffold.Proofs.CSharp.Using

/-!
# Layout

Two trees differ in layout only if they have the same nodes and tokens, and the same words in all
their texts (`Node.Relaid`). If one of them is made as the grammar says, both have the same outline
(`outline_by_words`): what may be broken over lines or spaced out is compacted by the outline, and
what is kept as it is written is a single token, because the grammar has an identifier in its place.
-/

namespace Scaffold.CSharp

open Text

/-! ## Lists of related elements -/

section Related

variable {α β : Type} {R : α → α → Prop} {p : α → Bool} {xs ys : List α}

theorem find?_cases (h : List.Forall₂ R xs ys) (hp : ∀ a b, R a b → p b = p a) :
    xs.find? p = none ∧ ys.find? p = none ∨
      ∃ a b, xs.find? p = some a ∧ ys.find? p = some b ∧ R a b := by
  induction h with
  | nil => exact .inl ⟨rfl, rfl⟩
  | @cons a b xs ys hab _ ih =>
    rw [List.find?_cons, List.find?_cons, hp a b hab]
    cases p a with
    | true => exact .inr ⟨a, b, rfl, rfl, hab⟩
    | false => exact ih

theorem related_takeWhile (h : List.Forall₂ R xs ys) (hp : ∀ a b, R a b → p b = p a) :
    List.Forall₂ R (xs.takeWhile p) (ys.takeWhile p) := by
  induction h with
  | nil => exact .nil
  | @cons a b xs ys hab _ ih =>
    rw [List.takeWhile_cons, List.takeWhile_cons, hp a b hab]
    cases p a with
    | true => exact .cons hab ih
    | false => exact .nil

theorem filterMap_eq_of_related {f : α → Option β} (h : List.Forall₂ R xs ys)
    (hf : ∀ a b, R a b → f b = f a) : ys.filterMap f = xs.filterMap f := by
  induction h with
  | nil => rfl
  | @cons a b xs ys hab _ ih => rw [List.filterMap_cons, List.filterMap_cons, hf a b hab, ih]

theorem map_filter_eq_of_related {f : α → β} (h : List.Forall₂ R xs ys)
    (hp : ∀ a b, R a b → p b = p a) (hf : ∀ a b, R a b → p a = true → f b = f a) :
    (ys.filter p).map f = (xs.filter p).map f := by
  induction h with
  | nil => rfl
  | @cons a b xs ys hab _ ih =>
    rw [List.filter_cons, List.filter_cons, hp a b hab]
    by_cases ha : p a = true
    · rw [if_pos ha, if_pos ha, List.map_cons, List.map_cons, hf a b hab ha, ih]
    · rw [if_neg ha, if_neg ha, ih]

theorem related_getLastD (h : List.Forall₂ R xs ys) {a b : α} (hab : R a b) :
    R (xs.getLastD a) (ys.getLastD b) := by
  induction h generalizing a b with
  | nil => exact hab
  | @cons c d xs ys hcd _ ih =>
    rw [List.getLastD_cons, List.getLastD_cons]
    exact ih hcd

end Related

theorem related_groups {R : Node → Node → Prop} {p : Node → Bool} {xs ys : List Node}
    (h : List.Forall₂ R xs ys) (hp : ∀ n m, R n m → p m = p n) :
    List.Forall₂ (List.Forall₂ R) (Node.groups p xs) (Node.groups p ys) := by
  induction h with
  | nil => exact .cons .nil .nil
  | @cons n m xs ys hnm _ ih =>
    rw [Node.groups, Node.groups, hp n m hnm]
    cases p n with
    | true => exact .cons .nil ih
    | false =>
      -- The node goes into the first group on its side, so the groups must be named to take the
      -- first ones off.
      generalize Node.groups p xs = left at ih
      generalize Node.groups p ys = right at ih
      cases ih with
      | nil => exact .cons (.cons hnm .nil) .nil
      | cons first more => exact .cons (.cons hnm first) more

namespace Node

/-- Whether the layout has no say in the text of a node: a token, an identifier or a modifier, a
comment or a directive. -/
def isAtom (n : Node) : Bool :=
  match n.kind with
  | .phrase p => p == .identifier || p == .modifier
  | _ => true

/-- The trees differ in layout only: their nodes are the same, atoms have the same texts and other
nodes texts with the same words. Blanks at the ends of a text are no layout. -/
inductive Relaid : Node → Node → Prop
  | intro {n m : Node} (kind : m.kind = n.kind) (role : m.role = n.role)
      (atom : n.isAtom = true → m.text = n.text) (words : SameWords n.text m.text)
      (ends : trim n.text = n.text ↔ trim m.text = m.text)
      (parts : List.Forall₂ Relaid n.parts m.parts) : Relaid n m

/-- The first tree is made as the grammar says, and the second one differs from it in layout
only. -/
structure Matches (n m : Node) : Prop where
  conforms : n.Conforms
  relaid : n.Relaid m

variable {n m : Node}

namespace Relaid

theorem kind_eq (h : n.Relaid m) : m.kind = n.kind := by
  obtain ⟨kind, -, -, -, -, -⟩ := h
  exact kind

theorem role_eq (h : n.Relaid m) : m.role = n.role := by
  obtain ⟨-, role, -, -, -, -⟩ := h
  exact role

theorem text_eq (h : n.Relaid m) (hatom : n.isAtom = true) : m.text = n.text := by
  obtain ⟨-, -, atom, -, -, -⟩ := h
  exact atom hatom

theorem sameWords (h : n.Relaid m) : SameWords n.text m.text := by
  obtain ⟨-, -, -, words, -, -⟩ := h
  exact words

theorem compact_text (h : n.Relaid m) : compact m.text = compact n.text :=
  (compact_eq_iff.2 h.sameWords).symm

/-- A text that is a word and nothing else stays as it is. -/
theorem text_eq_iff (h : n.Relaid m) {word : String} (hword : IsWord word.toList) :
    m.text = word ↔ n.text = word := by
  obtain ⟨-, -, -, words, ends, -⟩ := h
  have htrim : trim word = word := by
    rw [trim, (wordsOf_eq_iff.1 hword.wordsOf_eq).trimmed_eq, String.ofList_toList]
  constructor
  · rintro rfl
    exact words.symm.eq_of_isWord hword (ends.2 htrim)
  · rintro rfl
    exact words.eq_of_isWord hword (ends.1 htrim)

theorem is_eq (h : n.Relaid m) (p : Phrase) : m.is p = n.is p := by
  rw [Node.is, Node.is, h.kind_eq]

theorem isSlotMark_eq (h : n.Relaid m) : m.isSlotMark = n.isSlotMark := by
  simp only [isSlotMark, isMark, h.kind_eq]

theorem isAside_eq (h : n.Relaid m) : m.isAside = n.isAside := by
  rw [isAside, isAside, h.is_eq, h.kind_eq]

theorem isTypeOrName_eq (h : n.Relaid m) : m.isTypeOrName = n.isTypeOrName := by
  rw [isTypeOrName, isTypeOrName, h.role_eq]

theorem isParameter_eq (h : n.Relaid m) : m.isParameter = n.isParameter := by
  rw [isParameter, isParameter, h.is_eq, h.is_eq]

theorem isModifier_eq (h : n.Relaid m) : m.isModifier = n.isModifier := by
  rw [isModifier, isModifier, h.kind_eq]

/-! ## Texts that the outline compacts -/

theorem parts (h : n.Relaid m) : List.Forall₂ Relaid n.parts m.parts := by
  obtain ⟨-, -, -, -, -, parts⟩ := h
  exact parts

/-- The parts that play a role differ in layout only, if there are such. -/
theorem part?_cases (h : n.Relaid m) (role : Role) :
    n.part? role = none ∧ m.part? role = none ∨
      ∃ a b, n.part? role = some a ∧ m.part? role = some b ∧ a.Relaid b :=
  find?_cases h.parts fun _ _ hab => by rw [hab.role_eq]

theorem compact_partText (h : n.Relaid m) (role : Role) :
    compact (m.partText role) = compact (n.partText role) := by
  rw [partText, partText]
  rcases h.part?_cases role with ⟨hn, hm⟩ | ⟨a, b, hn, hm, hab⟩
  · rw [hn, hm]
  · rw [hn, hm]
    exact hab.compact_text

/-- What a method returns is compacted, so its layout does not matter. -/
theorem returnType_eq (h : n.Relaid m) : m.returnType = n.returnType := by
  rw [returnType, returnType]
  rcases h.part?_cases .returns with ⟨hn, hm⟩ | ⟨a, b, hn, hm, hab⟩
  · rw [hn, hm, Option.none_or, Option.none_or]
    exact h.compact_partText .type
  · rw [hn, hm]
    exact hab.compact_text

theorem using?_eq (h : n.Relaid m) : m.using? = n.using? := by
  have htarget : usingTarget m.text = usingTarget n.text := by
    rw [usingTarget, usingTarget, h.compact_text]
  rw [using?, using?, h.is_eq, htarget]

theorem fileNamespace?_eq (h : n.Relaid m) : m.fileNamespace? = n.fileNamespace? := by
  have hname : (m.part? .name).map (compact ·.text) = (n.part? .name).map (compact ·.text) := by
    rcases h.part?_cases .name with ⟨hn, hm⟩ | ⟨a, b, hn, hm, hab⟩
    · rw [hn, hm]
    · rw [hn, hm, Option.map_some, Option.map_some, hab.compact_text]
  rw [fileNamespace?, fileNamespace?, h.is_eq, hname]

end Relaid

/-! ## Atoms of the grammar -/

theorem isAtom_of_isModifier (h : n.isModifier = true) : n.isAtom = true := by
  unfold isModifier at h
  unfold isAtom
  split at h
  · rename_i hkind
    rw [hkind]
    rfl
  · rename_i hkind
    rw [hkind]
  · exact absurd h Bool.false_ne_true

theorem isAtom_of_isTrivia (h : n.isTrivia = true) : n.isAtom = true := by
  unfold isAtom
  rcases isTrivia_iff.1 h with hkind | hkind
  · rw [hkind]
  · rw [hkind]

end Node

/-- Whether only the given phrase plays a role. -/
def Label.playsOnly (role : Role) (p : Phrase) (label : Label) (played : Option Role) : Bool :=
  played != some role || label == .phrase p

theorem Phrase.isOpen_playsOnly_identifier :
    isOpen (Label.playsOnly .name .identifier) = true := by
  decide

theorem Phrase.isOpen_playsOnly_parameterList :
    isOpen (Label.playsOnly .parameters .parameterList) = true := by
  decide

namespace Node

variable {n m : Node}

/-- What plays a role in a phrase, if the grammar has only one phrase for it. -/
theorem Conforms.kind_of_role (h : n.Conforms) {p q : Phrase} {role : Role} (hn : n.is p = true)
    (hopen : Phrase.isOpen (Label.playsOnly role q) = true)
    (hp : p.pattern.allows (Label.playsOnly role q) none none = true) :
    ∀ part ∈ n.parts, part.role = some role → part.kind = .phrase q := by
  intro part hpart hrole
  by_cases htrivia : part.isTrivia = true
  · rw [((h.of_mem hpart).of_isTrivia htrivia).2] at hrole
    exact absurd hrole (by simp)
  · obtain ⟨label, hlabel, hok⟩ := (h.constituents (of_decide_eq_true hn)).allowed hopen hp
      (mem_constituents hpart htrivia)
    rw [Label.playsOnly, hrole, bne_self_eq_false, Bool.false_or] at hok
    obtain rfl : label = .phrase q := by simpa using hok
    exact hlabel

/-! ## What is read off the parts -/

namespace Matches

theorem parts (h : n.Matches m) : List.Forall₂ Matches n.parts m.parts := by
  have hboth := (List.forall₂_and_left _ _).2 ⟨fun _ ha => h.conforms.of_mem ha, h.relaid.parts⟩
  exact hboth.imp fun _ _ hab => ⟨hab.1, hab.2⟩

/-- The parts that play a role match, if there is one. -/
theorem part?_cases (h : n.Matches m) (role : Role) :
    n.part? role = none ∧ m.part? role = none ∨
      ∃ a b, n.part? role = some a ∧ m.part? role = some b ∧ a.Matches b :=
  find?_cases h.parts fun _ _ hab => by rw [hab.relaid.role_eq]

/-- A declared name stays as it is written, where the grammar has only identifiers for names. -/
theorem map_text_name (h : n.Matches m) {p : Phrase} (hn : n.is p = true)
    (hp : p.pattern.allows (Label.playsOnly .name .identifier) none none = true) :
    (m.part? .name).map (·.text) = (n.part? .name).map (·.text) := by
  rcases h.part?_cases .name with ⟨hnone, hmnone⟩ | ⟨a, b, ha, hb, hab⟩
  · rw [hnone, hmnone]
  · have hrole : a.role = some .name := by simpa using List.find?_some ha
    have hkind : a.kind = .phrase .identifier := h.conforms.kind_of_role hn
      Phrase.isOpen_playsOnly_identifier hp a (List.mem_of_find?_eq_some ha) hrole
    have hatom : a.isAtom = true := by
      rw [isAtom, hkind]
      rfl
    rw [ha, hb, Option.map_some, Option.map_some, hab.relaid.text_eq hatom]

theorem partText_name (h : n.Matches m) {p : Phrase} (hn : n.is p = true)
    (hp : p.pattern.allows (Label.playsOnly .name .identifier) none none = true) :
    m.partText .name = n.partText .name :=
  congrArg (·.getD "") (h.map_text_name hn hp)

theorem modifiers_eq (h : n.Matches m) : m.modifiers = n.modifiers :=
  map_filter_eq_of_related h.parts (fun _ _ hab => hab.relaid.isModifier_eq)
    fun _ _ hab ha => hab.relaid.text_eq (isAtom_of_isModifier ha)

theorem hasModifier_eq (h : n.Matches m) (text : String) :
    m.hasModifier text = n.hasModifier text := by
  rw [hasModifier, hasModifier, h.modifiers_eq]

/-! ## Parameters -/

/-- The words before the type and the name tell how an argument is passed. -/
theorem passing_eq (h : n.Matches m) : m.passing = n.passing := by
  have hleading := related_takeWhile (p := (!·.isTypeOrName)) h.parts fun _ _ hab => by
    rw [hab.relaid.isTypeOrName_eq]
  have hplain : n.plainPassing = m.plainPassing := by
    rw [plainPassing, plainPassing, h.relaid.is_eq]
  refine (List.rel_foldl (P := Eq) ?_ hplain hleading).symm
  rintro mode _ rfl a b hab
  have hmode : passingIn? a.text = passingIn? b.text := by
    simp only [passingIn?, hab.relaid.sameWords.words_eq]
  exact congrArg (·.getD mode) hmode

theorem parameter_eq (h : n.Matches m) (hn : n.isParameter = true) :
    m.parameter = n.parameter := by
  rw [isParameter, Bool.or_eq_true] at hn
  have hname : m.partText .name = n.partText .name :=
    hn.elim (fun hn => h.partText_name hn (by decide)) fun hn => h.partText_name hn (by decide)
  rw [parameter, parameter, hname, h.relaid.compact_partText, h.passing_eq]

end Matches

end Node

/-! ## Slots of a parameter list -/

/-- Whether a label can stand in a slot of a parameter list, where there is no mark. -/
def Label.standsInSlot : Label → Bool
  | token t => t == .word "params"
  | phrase p => !p.isHidden || p == .variadicParameter

/-- What the grammar has between two commas of a parameter list. -/
def slotPattern : Pattern := .phrases [.parameter, .variadicParameter]

section Slots

open Node

variable {ns : List Node}

theorem Fits.isSlotMark_of_mem (h : Fits slotPattern none none ns) :
    ∀ n ∈ ns, n.isSlotMark = false := by
  intro n hn
  have hopen : Phrase.isOpen (fun label _ => label.standsInSlot) = true := by decide
  obtain ⟨label, hkind, hok⟩ := h.allowed hopen (by decide) hn
  cases label with
  | token t =>
    obtain rfl : t = .word "params" := by simpa [Label.standsInSlot] using hok
    exact (IsOrdinary.of_word hkind).1
  | phrase p => exact isSlotMark_of_phrase hkind

/-- Commas split what the grammar has between the parentheses into what it has in the slots. -/
theorem Fits.of_mem_groups (h : Fits (.list slotPattern) none none ns) :
    ∀ slot ∈ groups isSlotMark ns, Fits slotPattern none none slot := by
  obtain ⟨first, more, rfl, hfirst, hmore⟩ := sequence_cons_iff.1 h
  obtain ⟨nss, rfl, hnss⟩ := exists_of_repeated (sequence_singleton_iff.1 hmore)
  clear h hmore
  -- Each repetition is a comma and what stands before the next one.
  induction nss generalizing first with
  | nil =>
    rw [List.flatten_nil, List.append_nil, groups_of_forall hfirst.isSlotMark_of_mem]
    exact List.forall_mem_singleton.2 hfirst
  | cons xs nss ih =>
    obtain ⟨hxs, hrepeated⟩ := List.forall_mem_cons.1 hnss
    obtain ⟨comma, next, rfl, hcomma, hnext⟩ := exists_of_token_sequence hxs
    have hmark : comma.isSlotMark = true := by simp [isSlotMark, isMark, hcomma]
    rw [List.flatten_cons, List.cons_append, groups_append hmark,
      groups_of_forall hfirst.isSlotMark_of_mem]
    exact List.forall_mem_cons.2 ⟨hfirst, ih next (sequence_singleton_iff.1 hnext) hrepeated⟩

namespace Node

variable {n m : Node}

/-- The nodes are those of a slot, or there are none. -/
def FillsSlot (ns : List Node) : Prop :=
  ns = [] ∨ Fits slotPattern none none ns

/-- But for trivia, what stands between the marks of a parameter list are slots. -/
theorem Conforms.fillsSlot (h : n.Conforms) (hn : n.is .parameterList = true) :
    ∀ slot ∈ groups isSlotMark n.parts, FillsSlot (slot.filter (!·.isTrivia)) := by
  have hkeeps : ∀ m : Node, m.isSlotMark = true → (!m.isTrivia) = true := by
    intro m hm
    by_contra htrivia
    rcases isTrivia_iff.1 (by simpa using htrivia) with hkind | hkind
    · simp [isSlotMark, isMark, hkind] at hm
    · simp [isSlotMark, isMark, hkind] at hm
  obtain ⟨opening, tail, hns, hopening, htail⟩ :=
    Fits.exists_of_token_sequence (h.constituents (of_decide_eq_true hn))
  obtain ⟨inner, closings, rfl, hinner, hclosings⟩ := Fits.sequence_cons_iff.1 htail
  obtain ⟨closing, rfl, hclosing⟩ := Fits.exists_of_token (Fits.sequence_singleton_iff.1 hclosings)
  have hopen : opening.isSlotMark = true := by simp [isSlotMark, isMark, hopening]
  have hclose : closing.isSlotMark = true := by simp [isSlotMark, isMark, hclosing]
  have hslots : ∀ slot ∈ groups isSlotMark inner, FillsSlot slot := by
    cases hinner with
    | left => exact List.forall_mem_singleton.2 (.inl rfl)
    | taken part => exact fun slot hslot => .inr (part.of_mem_groups slot hslot)
  have hgroups : groups isSlotMark n.constituents =
      [] :: (groups isSlotMark inner ++ [[]]) := by
    rw [hns, groups, if_pos hopen, groups_append hclose]
    rfl
  intro slot hslot
  have hmem : slot.filter (!·.isTrivia) ∈ groups isSlotMark n.constituents := by
    rw [Node.constituents, groups_filter hkeeps]
    exact List.mem_map_of_mem hslot
  rw [hgroups, List.mem_cons, List.mem_append, List.mem_singleton] at hmem
  rcases hmem with hmem | hmem | hmem
  · exact .inl hmem
  · exact hslots _ hmem
  · exact .inl hmem

/-- What the grammar has in a slot without a parameter node ends with a name. -/
theorem FillsSlot.exists_name (h : FillsSlot ns) (hns : ∀ a ∈ ns, a.isParameter = false) :
    ns = [] ∨ ∃ front name, ns = front ++ [name] ∧ name.kind = .phrase .identifier := by
  refine h.imp_right fun hfits => ?_
  obtain ⟨q, hq, hphrase⟩ := Fits.exists_of_phrases hfits
  have hcases : q = .parameter ∨ q = .variadicParameter := by simpa using hq
  rcases hcases with rfl | rfl
  · obtain ⟨parameter, rfl, hkind, -⟩ := Fits.exists_of_visible rfl hphrase
    have hparameter : parameter.isParameter = true := by simp [isParameter, Node.is, hkind]
    exact absurd hparameter (ne_true_of_eq_false (hns parameter (by simp)))
  · have hparts : Fits (.sequence ([.attributes, .word "params",
        .labelled .type (.phrases [.arrayType, .nullableType])] ++ [.declaredName])) none none ns :=
      Fits.of_hidden rfl hphrase
    obtain ⟨front, last, rfl, -, hlast⟩ := Fits.sequence_concat_iff.1 hparts
    obtain ⟨name, rfl, hkind, -⟩ := Fits.exists_of_visible rfl (Fits.labelled_iff.1 hlast)
    exact ⟨front, name, rfl, hkind⟩

/-- The last of the nodes that say something is the name of a parameter, or trivia. -/
theorem FillsSlot.isAtom_of_mem_getLast? {slot : List Node}
    (h : FillsSlot (slot.filter (!·.isTrivia))) (hslot : ∀ a ∈ slot, a.isParameter = false) :
    ∀ last ∈ (slot.filter (!·.isAside)).getLast?, last.isAtom = true := by
  intro last hlast
  by_cases htrivia : last.isTrivia = true
  · exact isAtom_of_isTrivia htrivia
  -- It is still the last one without trivia, and there the grammar has the name.
  obtain ⟨front, hfront⟩ : ∃ front, slot.filter (!·.isAside) = front ++ [last] :=
    List.getLast?_eq_some_iff.1 hlast
  have hends : (slot.filter (!·.isTrivia)).filter (!·.isAside) =
      front.filter (!·.isTrivia) ++ [last] := by
    have hkept : [last].filter (!·.isTrivia) = [last] :=
      List.filter_cons_of_pos (by simpa using htrivia)
    rw [List.filter_filter, ← hkept, ← List.filter_append, ← hfront, List.filter_filter]
    exact congrArg (slot.filter ·) (funext fun a => Bool.and_comm ..)
  rcases h.exists_name fun a ha => hslot a (List.mem_filter.1 ha).1 with
    hnil | ⟨before, name, hname, hkind⟩
  · rw [hnil, List.filter_nil] at hends
    exact absurd hends.symm (by simp)
  · have haside : name.isAside = false := by simp [isAside, Node.is, hkind]
    rw [hname, List.filter_append, List.filter_cons_of_pos (by simp [haside]), List.filter_nil]
      at hends
    obtain rfl : name = last := (List.append_singleton_inj.1 hends).2
    rw [isAtom, hkind]
    rfl

theorem slotParameter?_eq {slot other : List Node} (h : List.Forall₂ Matches slot other)
    (hfills : FillsSlot (slot.filter (!·.isTrivia))) :
    slotParameter? other = slotParameter? slot := by
  have hparams : IsWord "params".toList := by decide
  rw [slotParameter?, slotParameter?]
  rcases find?_cases h fun _ _ hab => hab.relaid.isParameter_eq with
    ⟨hnone, hother⟩ | ⟨a, b, ha, hb, hab⟩
  · rw [hnone, hother]
    have hslot : ∀ a ∈ slot, a.isParameter = false := by simpa using hnone
    have hlast := hfills.isAtom_of_mem_getLast? hslot
    have hsaid : List.Forall₂ Matches (slot.filter (!·.isAside)) (other.filter (!·.isAside)) :=
      List.rel_filter (fun a b hab => by simp [hab.relaid.isAside_eq]) h
    generalize slot.filter (!·.isAside) = said at hlast hsaid
    generalize other.filter (!·.isAside) = also at hsaid
    cases hsaid with
    | nil => rfl
    | cons hkeyword htypes =>
      cases htypes with
      | nil => rfl
      | cons htype hnames =>
        cases hnames with
        | nil => rfl
        | @cons name also more others hname hmore =>
          have hatom : (more.getLastD name).isAtom = true := hlast _ (by simp [List.getLast?_cons])
          have hends : (others.getLastD also).text = (more.getLastD name).text :=
            (related_getLastD hmore hname).relaid.text_eq hatom
          simp only [List.getLastD_cons, hkeyword.relaid.text_eq_iff hparams,
            htype.relaid.compact_text, hends]
  · rw [ha, hb]
    exact congrArg some (hab.parameter_eq (List.find?_some ha))

end Node

end Slots

/-! ## Declarations -/

namespace Node

variable {n m : Node}

namespace Matches

theorem listParameters_eq (h : n.Matches m) (hn : n.is .parameterList = true) :
    m.listParameters = n.listParameters := by
  have hgroups := related_groups (p := isSlotMark) h.parts fun _ _ hab => hab.relaid.isSlotMark_eq
  have hslots := (List.forall₂_and_left _ _).2 ⟨h.conforms.fillsSlot hn, hgroups⟩
  exact filterMap_eq_of_related hslots fun _ _ hslot => slotParameter?_eq hslot.2 hslot.1

theorem parameters_eq (h : n.Matches m) {p : Phrase} (hn : n.is p = true)
    (hp : p.pattern.allows (Label.playsOnly .parameters .parameterList) none none = true) :
    m.parameters = n.parameters := by
  rw [parameters, parameters]
  rcases h.part?_cases .parameters with ⟨hnone, hmnone⟩ | ⟨a, b, ha, hb, hab⟩
  · rw [hnone, hmnone]
  · have hrole : a.role = some .parameters := by simpa using List.find?_some ha
    have hkind : a.kind = .phrase .parameterList := h.conforms.kind_of_role hn
      Phrase.isOpen_playsOnly_parameterList hp a (List.mem_of_find?_eq_some ha) hrole
    rw [ha, hb]
    exact hab.listParameters_eq (decide_eq_true hkind)

theorem typeParameterName_eq (h : n.Matches m) (hn : n.is .typeParameter = true) :
    m.typeParameterName = n.typeParameterName := by
  rw [typeParameterName, typeParameterName, h.map_text_name hn (by decide),
    h.relaid.sameWords.words_eq]

theorem typeParameterNames_eq (h : n.Matches m) : m.typeParameterNames = n.typeParameterNames :=
  map_filter_eq_of_related h.parts (fun _ _ hab => hab.relaid.is_eq _)
    fun _ _ hab ha => hab.typeParameterName_eq ha

theorem method_eq (h : n.Matches m) (hn : n.is .methodDeclaration = true) :
    m.method = n.method := by
  have htypeParameters : (m.part? .typeParameters).map typeParameterNames =
      (n.part? .typeParameters).map typeParameterNames := by
    rcases h.part?_cases .typeParameters with ⟨hnone, hmnone⟩ | ⟨a, b, ha, hb, hab⟩
    · rw [hnone, hmnone]
    · rw [ha, hb, Option.map_some, Option.map_some, hab.typeParameterNames_eq]
  simp only [method, h.partText_name hn (by decide), h.parameters_eq hn (by decide),
    h.relaid.returnType_eq, htypeParameters, h.hasModifier_eq]

theorem method?_eq (h : n.Matches m) : m.method? = n.method? := by
  rw [method?, method?, h.relaid.is_eq]
  by_cases hn : n.is .methodDeclaration = true
  · rw [if_pos hn, if_pos hn, h.method_eq hn]
  · rw [if_neg hn, if_neg hn]

theorem constructor?_eq (h : n.Matches m) : m.constructor? = n.constructor? := by
  rw [constructor?, constructor?, h.relaid.is_eq, h.hasModifier_eq]
  by_cases hn : n.is .constructorDeclaration = true
  · rw [h.parameters_eq hn (by decide)]
  · rw [Bool.eq_false_iff.2 hn, Bool.false_and]
    rfl

end Matches

theorem usings_eq_of_relaid {ns ms : List Node} (h : List.Forall₂ Relaid ns ms) :
    usings ms = usings ns :=
  filterMap_eq_of_related h fun _ _ hab => hab.using?_eq

/-! ## The outline -/

/-- The trees match, and the outline reads the same off both. -/
structure Agrees (n m : Node) : Prop extends Matches n m where
  classNode_eq : n.is .classDeclaration = true → m.classNode = n.classNode
  namespaceNode_eq : m.namespaceNode = n.namespaceNode
  classes_eq : classes m.parts = classes n.parts
  members_eq : members m.parts = members n.parts

theorem classes_eq_of_agrees {ns ms : List Node} (h : List.Forall₂ Agrees ns ms) :
    classes ms = classes ns := by
  induction h with
  | nil => rfl
  | @cons a b ns ms hab _ ih =>
    rw [classes, classes, hab.relaid.is_eq, ih]
    by_cases ha : a.is .classDeclaration = true
    · rw [if_pos ha, if_pos ha, hab.classNode_eq ha]
    · rw [if_neg ha, if_neg ha]

theorem members_eq_of_agrees {ns ms : List Node} (h : List.Forall₂ Agrees ns ms) :
    members ms = members ns := by
  induction h with
  | nil => rfl
  | @cons a b ns ms hab _ ih =>
    rw [members, members, hab.relaid.is_eq, hab.relaid.is_eq, hab.namespaceNode_eq, ih]
    by_cases ha : a.is .classDeclaration = true
    · rw [if_pos ha, if_pos ha, hab.classNode_eq ha]
    · rw [if_neg ha, if_neg ha]

/-- What the outline reads off the bodies is the same if it is the same for all parts. -/
theorem bodyParts_of_agrees (h : List.Forall₂ Agrees n.parts m.parts) :
    List.Forall₂ Matches n.bodyParts m.bodyParts ∧ classes m.bodyParts = classes n.bodyParts ∧
      members m.bodyParts = members n.bodyParts := by
  have hrole (a b : Node) (hab : a.Agrees b) :
      decide (b.role = some .body) = decide (a.role = some .body) := by rw [hab.relaid.role_eq]
  rw [bodyParts, bodyParts, part?, part?]
  rcases find?_cases h hrole with ⟨hnone, hmnone⟩ | ⟨a, b, ha, hb, hab⟩
  · rw [hnone, hmnone]
    exact ⟨.nil, rfl, rfl⟩
  · rw [ha, hb]
    exact ⟨hab.parts, hab.classes_eq, hab.members_eq⟩

theorem Matches.agrees (h : n.Matches m) (hparts : List.Forall₂ Agrees n.parts m.parts) :
    n.Agrees m := by
  obtain ⟨hbody, hclasses, hmembers⟩ := bodyParts_of_agrees hparts
  have hmethods : m.bodyParts.filterMap method? = n.bodyParts.filterMap method? :=
    filterMap_eq_of_related hbody fun _ _ hab => hab.method?_eq
  have hconstructors : m.bodyParts.filterMap constructor? = n.bodyParts.filterMap constructor? :=
    filterMap_eq_of_related hbody fun _ _ hab => hab.constructor?_eq
  exact {
    toMatches := h
    classNode_eq := fun hn => by
      rw [classNode_eq, classNode_eq, classWith, classWith, h.partText_name hn (by decide),
        h.hasModifier_eq, hmethods, hconstructors, hclasses]
    namespaceNode_eq := by
      have husings := usings_eq_of_relaid (hbody.imp fun _ _ hab => hab.relaid)
      rw [namespaceNode_eq, namespaceNode_eq, namespaceWith, namespaceWith,
        h.relaid.compact_partText, husings, hmembers]
    classes_eq := classes_eq_of_agrees hparts
    members_eq := members_eq_of_agrees hparts }

/-- Whatever the layout, the outline reads the same off a tree, by induction on the tree. -/
theorem Conforms.agrees (h : n.Conforms) (hrelaid : n.Relaid m) : n.Agrees m := by
  induction h generalizing m with
  | @intro n isMade parts ih =>
    have hmatches : n.Matches m := ⟨.intro isMade parts, hrelaid⟩
    have hparts := (List.forall₂_and_left _ _).2 ⟨fun a ha => @ih a ha, hmatches.parts⟩
    exact hmatches.agrees (hparts.imp fun a b hab => hab.1 hab.2.relaid)

mutual

/-- What is read as members of a unit matches one by one: the nodes, and what is in file
namespaces. -/
theorem Matches.items : ∀ {n m : Node}, n.Matches m → List.Forall₂ Matches n.items m.items
  | ⟨kind, role, start, text, isFlawed, parts⟩, m, h => by
    have hparts : List.Forall₂ Matches (itemsAmong parts) (itemsAmong m.parts) :=
      itemsAmong_of_matches h.parts
    rw [items_eq, items_eq, h.relaid.is_eq]
    refine .cons h ?_
    split
    · exact hparts
    · exact .nil

theorem itemsAmong_of_matches : ∀ {ns ms : List Node}, List.Forall₂ Matches ns ms →
    List.Forall₂ Matches (itemsAmong ns) (itemsAmong ms)
  | [], _, .nil => .nil
  | _ :: _, _, .cons hn hns => List.rel_append hn.items (itemsAmong_of_matches hns)

end

theorem outline_eq_of_relaid (h : n.Conforms) (hparts : List.Forall₂ Relaid n.parts m.parts)
    (path : Option Path) : m.outline path = n.outline path := by
  have hmatches : List.Forall₂ Matches n.parts m.parts :=
    ((List.forall₂_and_left _ _).2 ⟨fun _ ha => h.of_mem ha, hparts⟩).imp
      fun _ _ hab => ⟨hab.1, hab.2⟩
  have hitems := itemsAmong_of_matches hmatches
  have hrelaid := hitems.imp fun _ _ hab => hab.relaid
  have hnamespaces : (itemsAmong m.parts).filterMap fileNamespace? =
      (itemsAmong n.parts).filterMap fileNamespace? :=
    filterMap_eq_of_related hrelaid fun _ _ hab => hab.fileNamespace?_eq
  have hmembers : members (itemsAmong m.parts) = members (itemsAmong n.parts) :=
    members_eq_of_agrees (hitems.imp fun _ _ hab => hab.conforms.agrees hab.relaid)
  rw [outline, outline, usings_eq_of_relaid hrelaid, hnamespaces, hmembers]

/-! ## Checking a layout -/

instance (s t : String) : Decidable (SameWords s t) :=
  decidable_of_iff _ sameWords_iff_wordsOf.symm

mutual

/-- Whether trees differ in layout only. -/
def relays : Node → Node → Bool
  | ⟨kind, role, start, text, isFlawed, parts⟩, m =>
    (m.kind = kind && m.role = role) &&
      (!isAtom ⟨kind, role, start, text, isFlawed, parts⟩ || m.text = text) &&
      SameWords text m.text && decide (trim text = text ↔ trim m.text = m.text) &&
      relaysAll parts m.parts

/-- Whether trees differ in layout only, one by one. -/
def relaysAll : List Node → List Node → Bool
  | [], [] => true
  | n :: ns, m :: ms => n.relays m && relaysAll ns ms
  | _, _ => false

end

mutual

theorem relaid_of_relays : ∀ {n m : Node}, n.relays m = true → n.Relaid m
  | ⟨kind, role, start, text, isFlawed, parts⟩, m, h => by
    simp only [relays, Bool.and_eq_true, decide_eq_true_eq, Bool.or_eq_true, Bool.not_eq_true'] at h
    obtain ⟨⟨⟨⟨⟨hkind, hrole⟩, hatom⟩, hwords⟩, hends⟩, hparts⟩ := h
    refine .intro hkind hrole (fun h => ?_) hwords hends (relaid_of_relaysAll hparts)
    exact hatom.resolve_left (by simp [h])

theorem relaid_of_relaysAll :
    ∀ {ns ms : List Node}, relaysAll ns ms = true → List.Forall₂ Relaid ns ms
  | [], [], _ => .nil
  | n :: ns, m :: ms, h => by
    rw [relaysAll, Bool.and_eq_true] at h
    exact .cons (relaid_of_relays h.1) (relaid_of_relaysAll h.2)

end

end Node

/-- What a using directive makes visible is its target, compacted, wherever there are blanks in the
directive. A text that is compacted already stays as it is, and two texts are the same once they are
compacted just where they have the same words. So in trees that differ in layout only, using
directives make the same visible, and the names of namespaces and the types of parameters and
methods are the same. If one of the trees is made as the grammar says, their outlines are the same
altogether. -/
theorem outline_by_words :
    (∀ d : UsingDirective, Node.usingTarget d.text = compact d.target) ∧
      (∀ s : String, compact (compact s) = compact s) ∧
      (∀ s t : String, compact s = compact t ↔ SameWords s t) ∧
      (∀ n m : Node, n.Relaid m → m.using? = n.using? ∧ m.fileNamespace? = n.fileNamespace? ∧
        ∀ role, compact (m.partText role) = compact (n.partText role)) ∧
      ∀ n m : Node, n.Conforms → List.Forall₂ Node.Relaid n.parts m.parts →
        ∀ path : Option Path, m.outline path = n.outline path :=
  ⟨UsingDirective.usingTarget_text, compact_compact, fun _ _ => compact_eq_iff,
    fun _ _ h => ⟨h.using?_eq, h.fileNamespace?_eq, h.compact_partText⟩,
    fun _ _ => Node.outline_eq_of_relaid⟩

/-- The directive `global using static global::A.B ;`, with a tab behind its first word and a line
break behind the second one. -/
def brokenUsing : UsingDirective where
  behindGlobal := some "\t"
  behindUsing := "\n    "
  target := "static  global::A.B"
  behindTarget := " "
  global_isGap := by
    rintro gap ⟨⟩
    decide
  using_isGap := by decide
  hasWord := ⟨'s', by decide, by decide⟩
  notClosed := by
    rintro a ⟨⟩
    decide
  blank := List.forall_mem_singleton.2 (by decide)

/-- The tree of `using static N; class C { Pair<int, T> F(); }`, with the given blanks behind
`using` and in the type. -/
def spacedUnit (gap : String) : Node :=
  let wide := gap.length
  let directive : Node := .ofPhrase .usingDirective none 0 ("using" ++ gap ++ "static N;") [
    .ofToken (.word "using") 0 "using", .ofToken (.word "static") (5 + wide) "static",
    .ofIdentifier none (12 + wide) "N", .ofToken (.mark ";") (13 + wide) ";"]
  let arguments : Node := .ofPhrase .typeArgumentList none (29 + wide) ("<int," ++ gap ++ "T>") [
    .ofToken (.mark "<") (29 + wide) "<",
    .ofPhrase .predefinedType none (30 + wide) "int" [.ofToken (.word "int") (30 + wide) "int"],
    .ofToken (.mark ",") (33 + wide) ",", .ofIdentifier none (34 + 2 * wide) "T",
    .ofToken (.mark ">") (35 + 2 * wide) ">"]
  let type : Node := .ofPhrase .genericName (some .returns) (25 + wide) ("Pair" ++ arguments.text)
    [.ofIdentifier none (25 + wide) "Pair", arguments]
  let method : Node := .ofPhrase .methodDeclaration none (25 + wide) (type.text ++ " F();") [
    type, .ofIdentifier (some .name) (37 + 2 * wide) "F",
    .ofPhrase .parameterList (some .parameters) (38 + 2 * wide) "()" [
      .ofToken (.mark "(") (38 + 2 * wide) "(", .ofToken (.mark ")") (39 + 2 * wide) ")"],
    .ofToken (.mark ";") (40 + 2 * wide) ";"]
  let body : Node := .ofPhrase .declarationList (some .body) (23 + wide)
    ("\x7b " ++ method.text ++ " \x7d") [
    .ofToken (.mark "\x7b") (23 + wide) "\x7b", method,
    .ofToken (.mark "\x7d") (42 + 2 * wide) "\x7d"]
  let declaration : Node := .ofPhrase .classDeclaration none (15 + wide) ("class C " ++ body.text) [
    .ofToken (.word "class") (15 + wide) "class", .ofIdentifier (some .name) (21 + wide) "C", body]
  .ofPhrase .compilationUnit none 0 (directive.text ++ " " ++ declaration.text)
    [directive, declaration]

/-- A directive over two lines, and two layouts of a unit with the same import and the same type. -/
theorem outline_by_words_spaced :
    Node.usingTarget "global\tusing\n    static  global::A.B ;" = "static global::A.B" ∧
      (spacedUnit " ").Conforms ∧
      List.Forall₂ Node.Relaid (spacedUnit " ").parts (spacedUnit "\n\t").parts ∧
      (spacedUnit "\n\t").outline none = (spacedUnit " ").outline none ∧
      ((spacedUnit " ").outline none).usings = ["static N"] ∧
      ((spacedUnit " ").outline none).sites.flatMap (·.node.methods.map (·.returnType)) =
        ["Pair<int, T>"] := by
  obtain ⟨htarget, -, -, -, houtline⟩ := outline_by_words
  have hconforms : (spacedUnit " ").Conforms := Node.conforms_of_checks 40 (by decide)
  have hrelaid : List.Forall₂ Node.Relaid (spacedUnit " ").parts (spacedUnit "\n\t").parts :=
    Node.relaid_of_relaysAll (by decide)
  exact ⟨htarget brokenUsing, hconforms, hrelaid, houtline _ _ hconforms hrelaid none, by decide,
    by decide⟩

end Scaffold.CSharp
