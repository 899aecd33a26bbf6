import Mathlib.Data.List.TakeWhile
import Scaffold.Proofs.Mocking.BaseName
import Scaffold.Proofs.Mocking.TypeSyntax

/-!
# The convention for interfaces over the syntax of types

By the convention the last segment of a dotted name, or of the nullable type of one, says whether the
type is an interface (`TypeSyntax.isInterface`). The classifier works on the text, and stops at the
first `<` or `?`: of a dotted name it sees the first segment that has generic arguments, it sees
through pointers, and in a tuple it takes a dotted name for the whole (`TypeSyntax.shown`).
`TypeSyntax.isAbstraction_text` says that this is what it goes by, whatever the type is.
-/

namespace Scaffold.Fixture

open Text

/-! ## What the convention says -/

/-- The last segment of a dotted name. -/
def lastSegment (first : Segment) (more : List Segment) : Segment :=
  more.getLast?.getD first

/-- The first segment and the segments behind it, of a dotted name or the nullable type of one. -/
def TypeSyntax.segments? : TypeSyntax → Option (Segment × List Segment)
  | .dotted first more => some (first, more)
  | .nullable (.dotted first more) => some (first, more)
  | _ => none

/-- Whether a type is an interface by the convention: it is a dotted name, or the nullable type of
one, whose last segment has the name of an interface. -/
def TypeSyntax.isInterface (type : TypeSyntax) : Bool :=
  type.segments?.any fun (first, more) => isInterfaceName (lastSegment first more).name.chars

/-! ## What the classifier sees -/

/-- What is seen of a part of a type: the name behind the last dot, and whether the part has a `<` or
`?`, behind which nothing is seen. -/
structure Glance where
  name : Option (List Char)
  ends : Bool

/-- What is seen of two parts that follow each other. -/
instance : Append Glance where
  append a b := if a.ends then a else ⟨b.name.or a.name, b.ends⟩

/-- What is seen of segments that stand behind dots. -/
def Segment.glanceRest : List Segment → Glance
  | [] => ⟨none, false⟩
  | segment :: segments =>
    ⟨some segment.name.chars, segment.isGeneric⟩ ++ Segment.glanceRest segments

mutual

/-- What is seen of a type. -/
def TypeSyntax.glance : TypeSyntax → Glance
  | .dotted first more => ⟨none, first.isGeneric⟩ ++ Segment.glanceRest more
  | .nullable type => type.glance ++ ⟨none, true⟩
  | .pointer type => type.glance
  | .tuple first more => first.glance ++ Element.glanceRest more

/-- What is seen of an element. -/
def Element.glance : Element → Glance
  | ⟨type, _⟩ => type.glance

/-- What is seen of further elements. -/
def Element.glanceRest : List Element → Glance
  | [] => ⟨none, false⟩
  | element :: elements => element.glance ++ Element.glanceRest elements

end

/-- What the text of a type begins with: a name, or the bracket of a tuple. -/
def TypeSyntax.beginning : TypeSyntax → List Char
  | .dotted first _ => first.name.chars
  | .nullable type => type.beginning
  | .pointer type => type.beginning
  | .tuple _ _ => ['(']

/-- What is taken for the name of a type: the name behind the last dot that is seen, or the beginning
of the type. -/
def TypeSyntax.shown (type : TypeSyntax) : List Char :=
  type.glance.name.getD type.beginning

/-- The segment of a dotted name that is taken for its last: the first that has generic arguments, or
else the last. -/
def shownSegment (first : Segment) : List Segment → Segment
  | [] => first
  | next :: more => if first.isGeneric then first else shownSegment next more

/-! ## Reading a text from the left -/

/-- What is seen of a text. -/
structure Reads (text : List Char) (glance : Glance) : Prop where
  ends : text.any (fun c => !isBare c) = glance.ends
  shows : Shows (text.takeWhile isBare) glance.name

theorem Glance.append_nothing (a : Glance) : a ++ (⟨none, false⟩ : Glance) = a := by
  obtain ⟨name, _ | _⟩ := a <;> rfl

theorem Glance.nothing_append (a : Glance) : (⟨none, false⟩ : Glance) ++ a = a := by
  obtain ⟨_ | name, ends⟩ := a <;> rfl

theorem Glance.name_append (name : Option (List Char)) (b : Glance) :
    ((⟨name, false⟩ : Glance) ++ b).name = b.name.or name :=
  rfl

theorem Glance.name_append_of_ends (name : Option (List Char)) (b : Glance) :
    ((⟨name, true⟩ : Glance) ++ b).name = name :=
  rfl

/-- Behind a character that ends the bare part, nothing is taken. -/
theorem takeWhile_append_of_any {p : Char → Bool} {x : List Char}
    (h : x.any (fun c => !p c) = true) (y : List Char) :
    (x ++ y).takeWhile p = x.takeWhile p := by
  induction x with
  | nil => cases h
  | cons a x ih =>
    rw [List.cons_append, List.takeWhile_cons, List.takeWhile_cons]
    cases ha : p a with
    | false => rfl
    | true =>
      rw [List.any_cons, ha] at h
      rw [ih h]

/-- The bare part of a text goes on where the first of two parts is bare. -/
theorem takeWhile_isBare_append {x : List Char} (h : x.any (fun c => !isBare c) = false)
    (y : List Char) : (x ++ y).takeWhile isBare = x.takeWhile isBare ++ y.takeWhile isBare := by
  have hx : ∀ c ∈ x, isBare c = true := by simpa using h
  rw [List.takeWhile_append_of_pos hx, List.takeWhile_eq_self_iff.2 hx]

theorem head?_cons_of_not_isUpper {c : Char} (h : c.isUpper = false) (rest : List Char) :
    ∀ a ∈ (c :: rest).head?, a.isUpper = false := by
  intro a ha
  obtain rfl := Option.mem_some.1 ha
  exact h

theorem head?_append_of_not_isUpper {x y : List Char} (hx : ∀ c ∈ x.head?, c.isUpper = false)
    (hy : ∀ c ∈ y.head?, c.isUpper = false) : ∀ c ∈ (x ++ y).head?, c.isUpper = false := by
  obtain _ | ⟨a, x⟩ := x
  · exact hy
  · exact hx

/-- The bare part of a text begins like the text, if with anything. -/
theorem head?_bare {y : List Char} (h : ∀ c ∈ y.head?, c.isUpper = false) :
    ∀ c ∈ (y.takeWhile isBare).head?, c.isUpper = false := by
  intro c hc
  rw [List.head?_takeWhile] at hc
  exact h c (Option.mem_filter_iff.1 hc).1

theorem Reads.append {x y : List Char} {a b : Glance} (hx : Reads x a) (hy : Reads y b)
    (hhead : a.name ≠ none → ∀ c ∈ y.head?, c.isUpper = false) : Reads (x ++ y) (a ++ b) := by
  -- Where the first part ends the bare part, the second one is not looked at.
  obtain ⟨name, _ | _⟩ := a
  · refine ⟨?_, ?_⟩
    · rw [List.any_append, hx.ends, hy.ends]
      rfl
    · rw [takeWhile_isBare_append hx.ends]
      exact hx.shows.append hy.shows fun hname => head?_bare (hhead hname)
  · refine ⟨?_, ?_⟩
    · rw [List.any_append, hx.ends]
      rfl
    · rw [takeWhile_append_of_any hx.ends]
      exact hx.shows

/-- A text without dots that does not end the bare part. -/
theorem reads_plain {x : List Char} (h : ∀ c ∈ x, isBare c = true ∧ c ≠ '.') :
    Reads x ⟨none, false⟩ where
  ends := by
    rw [List.any_eq_false]
    exact fun c hc => by simp [(h c hc).1]
  shows := .nothing fun hdot => (h '.' ((List.takeWhile_prefix isBare).subset hdot)).2 rfl

/-- A character that ends the bare part, with anything behind it. -/
theorem reads_stop {c : Char} (h : isBare c = false) (rest : List Char) :
    Reads (c :: rest) ⟨none, true⟩ where
  ends := by simp [h]
  shows := by
    rw [List.takeWhile_cons_of_neg (by simp [h])]
    exact .nothing List.not_mem_nil

/-! ## Reading a type from the left -/

theorem TypeName.plain (name : TypeName) : ∀ c ∈ name.chars, isBare c = true ∧ c ≠ '.' := by
  intro c hc
  have hname := name.isNameCharacter_of_mem hc
  refine ⟨?_, ?_⟩
  · rw [isBare, Bool.and_eq_true, bne_iff_ne, bne_iff_ne]
    constructor <;> rintro rfl <;> exact absurd hname (by decide)
  · rintro rfl
    exact absurd hname (by decide)

theorem TypeName.reads (name : TypeName) : Reads name.chars ⟨none, false⟩ :=
  reads_plain name.plain

/-- A name behind a dot is seen. -/
theorem TypeName.reads_dot (name : TypeName) :
    Reads ('.' :: name.chars) ⟨some name.chars, false⟩ where
  ends := by
    rw [List.any_cons]
    exact name.reads.ends
  shows := by
    have hbare : ∀ c ∈ '.' :: name.chars, isBare c = true :=
      List.forall_mem_cons.2 ⟨rfl, fun c hc => (name.plain c hc).1⟩
    have hdot : '.' ∉ name.chars ++ [] := by
      rw [List.append_nil]
      exact fun hdot => (name.plain '.' hdot).2 rfl
    have hname : Shows ([] ++ '.' :: (name.chars ++ [])) (some name.chars) := .name hdot nofun
    rw [List.takeWhile_eq_self_iff.2 hbare]
    rwa [List.append_nil] at hname

/-- A segment is read where its name is; its generic arguments end the bare part. -/
theorem Segment.reads_of_name {front : List Char} {name? : Option (List Char)} (spaces : Nat)
    (segment : Segment) (h : Reads (front ++ segment.name.chars) ⟨name?, false⟩) :
    Reads (front ++ segment.chars spaces) ⟨name?, segment.isGeneric⟩ := by
  obtain ⟨name, _ | ⟨type, types⟩⟩ := segment
  · exact h
  · rw [Segment.chars, ← List.append_assoc]
    exact h.append (reads_stop rfl _) fun _ => head?_cons_of_not_isUpper rfl _

theorem Segment.reads (spaces : Nat) (segment : Segment) :
    Reads (segment.chars spaces) ⟨none, segment.isGeneric⟩ :=
  @Segment.reads_of_name [] none spaces segment segment.name.reads

theorem Segment.reads_dot (spaces : Nat) (segment : Segment) :
    Reads ('.' :: segment.chars spaces) ⟨some segment.name.chars, segment.isGeneric⟩ :=
  @Segment.reads_of_name ['.'] _ spaces segment segment.name.reads_dot

theorem Segment.head?_charsRest (spaces : Nat) (segments : List Segment) :
    ∀ c ∈ (Segment.charsRest spaces segments).head?, c.isUpper = false := by
  cases segments with
  | nil => exact fun c hc => absurd hc (Option.not_mem_none c)
  | cons => exact head?_cons_of_not_isUpper rfl _

theorem Segment.readsRest (spaces : Nat) (segments : List Segment) :
    Reads (Segment.charsRest spaces segments) (Segment.glanceRest segments) := by
  induction segments with
  | nil => exact reads_plain fun _ hc => absurd hc List.not_mem_nil
  | cons segment segments ih =>
    exact (segment.reads_dot spaces).append ih fun _ => Segment.head?_charsRest spaces segments

theorem Element.head?_charsRest (spaces : Nat) (elements : List Element) :
    ∀ c ∈ (Element.charsRest spaces elements).head?, c.isUpper = false := by
  cases elements with
  | nil => exact fun c hc => absurd hc (Option.not_mem_none c)
  | cons => exact head?_cons_of_not_isUpper rfl _

theorem reads_comma (spaces : Nat) : Reads (comma spaces) ⟨none, false⟩ := by
  refine reads_plain fun c hc => ?_
  obtain rfl | hc := List.mem_cons.1 hc
  · decide
  · obtain rfl := List.eq_of_mem_replicate hc
    decide

mutual

/-- What is seen of the text of a type is what is seen of the type. -/
theorem TypeSyntax.reads (spaces : Nat) : ∀ type : TypeSyntax, Reads (type.chars spaces) type.glance
  | .dotted first more =>
    (first.reads spaces).append (Segment.readsRest spaces more) fun h => absurd rfl h
  | .nullable type =>
    (TypeSyntax.reads spaces type).append (reads_stop rfl []) fun _ =>
      head?_cons_of_not_isUpper rfl _
  | .pointer type => by
    -- The star neither ends the bare part nor hides the name before it.
    have hstar : Reads ['*'] ⟨none, false⟩ := reads_plain (List.forall_mem_singleton.2 (by decide))
    have h := (TypeSyntax.reads spaces type).append hstar fun _ =>
      head?_cons_of_not_isUpper rfl _
    rwa [Glance.append_nothing] at h
  | .tuple first more => by
    -- Nothing is seen of the brackets: they are bare and no dots.
    have hopen : Reads ['('] ⟨none, false⟩ := reads_plain (List.forall_mem_singleton.2 (by decide))
    have hclose : Reads [')'] ⟨none, false⟩ := reads_plain (List.forall_mem_singleton.2 (by decide))
    have helements := (Element.reads spaces first).append (Element.readsRest spaces more)
      fun _ => Element.head?_charsRest spaces more
    have h := hopen.append (helements.append hclose fun _ => head?_cons_of_not_isUpper rfl _)
      fun h => absurd rfl h
    rwa [Glance.append_nothing, Glance.nothing_append] at h

theorem Element.reads (spaces : Nat) :
    ∀ element : Element, Reads (element.chars spaces) element.glance
  | ⟨type, none⟩ => TypeSyntax.reads spaces type
  | ⟨type, some name⟩ => by
    have hname : Reads (' ' :: name.chars) ⟨none, false⟩ :=
      reads_plain (List.forall_mem_cons.2 ⟨by decide, name.plain⟩)
    have h := (TypeSyntax.reads spaces type).append hname fun _ =>
      head?_cons_of_not_isUpper rfl _
    rwa [Glance.append_nothing] at h

theorem Element.readsRest (spaces : Nat) :
    ∀ elements, Reads (Element.charsRest spaces elements) (Element.glanceRest elements)
  | [] => reads_plain fun _ hc => absurd hc List.not_mem_nil
  | element :: elements => by
    have helements := (Element.reads spaces element).append (Element.readsRest spaces elements)
      fun _ => Element.head?_charsRest spaces elements
    have h := (reads_comma spaces).append helements fun h => absurd rfl h
    rwa [Glance.nothing_append] at h

end

/-! ## How a type begins -/

/-- A text begins with a name, behind which it goes on without a capital, or with the bracket of a
tuple. -/
def Begins (text beginning : List Char) : Prop :=
  ∃ rest, text = beginning ++ rest ∧
    ((∀ c ∈ rest.head?, c.isUpper = false) ∨ beginning = ['('])

section

variable {text beginning : List Char}

theorem Begins.append (h : Begins text beginning) {more : List Char}
    (hmore : ∀ c ∈ more.head?, c.isUpper = false) : Begins (text ++ more) beginning := by
  obtain ⟨rest, rfl, hrest⟩ := h
  refine ⟨rest ++ more, List.append_assoc .., hrest.imp_left fun hhead => ?_⟩
  exact head?_append_of_not_isUpper hhead hmore

theorem Begins.takeWhile_isBare (h : Begins text beginning)
    (hbare : ∀ c ∈ beginning, isBare c = true) : Begins (text.takeWhile isBare) beginning := by
  obtain ⟨rest, rfl, hrest⟩ := h
  exact ⟨_, List.takeWhile_append_of_pos hbare, hrest.imp_left head?_bare⟩

theorem Begins.mem_of_head? (h : Begins text beginning) (hne : beginning ≠ []) :
    ∀ c ∈ text.head?, c ∈ beginning := by
  obtain ⟨rest, rfl, -⟩ := h
  intro c hc
  rw [List.head?_append_of_ne_nil _ hne] at hc
  exact List.mem_of_mem_head? hc

/-- The beginning says whether a text is the name of an interface. -/
theorem Begins.isInterfaceName_eq (h : Begins text beginning) :
    isInterfaceName text = isInterfaceName beginning := by
  obtain ⟨rest, rfl, hrest | rfl⟩ := h
  · exact isInterfaceName_append beginning hrest
  · rfl

end

theorem TypeName.isBlank_eq_false (name : TypeName) {c : Char} (h : c ∈ name.chars) :
    isBlank c = false := by
  have hname := name.isNameCharacter_of_mem h
  rw [isNameCharacter, Bool.and_eq_true, Bool.not_eq_true'] at hname
  exact hname.1

theorem TypeSyntax.beginning_ne_nil : ∀ type : TypeSyntax, type.beginning ≠ []
  | .dotted first _ => first.name.ne_nil
  | .nullable type => type.beginning_ne_nil
  | .pointer type => type.beginning_ne_nil
  | .tuple _ _ => List.cons_ne_nil _ _

theorem TypeSyntax.beginning_bare :
    ∀ type : TypeSyntax, ∀ c ∈ type.beginning, isBare c = true ∧ isBlank c = false
  | .dotted first _ => fun c hc => ⟨(first.name.plain c hc).1, first.name.isBlank_eq_false hc⟩
  | .nullable type => type.beginning_bare
  | .pointer type => type.beginning_bare
  | .tuple _ _ => List.forall_mem_singleton.2 (by decide)

theorem Segment.begins (spaces : Nat) (segment : Segment) :
    Begins (segment.chars spaces) segment.name.chars := by
  obtain ⟨name, _ | ⟨argument, arguments⟩⟩ := segment
  · exact ⟨[], (List.append_nil _).symm, .inl fun c hc => absurd hc (Option.not_mem_none c)⟩
  · exact ⟨_, rfl, .inl (head?_cons_of_not_isUpper rfl _)⟩

theorem TypeSyntax.begins (spaces : Nat) :
    ∀ type : TypeSyntax, Begins (type.chars spaces) type.beginning
  | .dotted first more => (first.begins spaces).append (Segment.head?_charsRest spaces more)
  | .nullable type => (type.begins spaces).append (head?_cons_of_not_isUpper rfl _)
  | .pointer type => (type.begins spaces).append (head?_cons_of_not_isUpper rfl _)
  | .tuple _ _ => ⟨_, rfl, .inr rfl⟩

/-! ## The classifier goes by what it sees -/

/-- The classifier goes by the name that it sees. -/
theorem TypeSyntax.isAbstraction_eq_shown (spaces : Nat) (type : TypeSyntax) :
    Classifier.interfaceConvention.isAbstraction (type.text spaces) =
      isInterfaceName type.shown := by
  have hbegins : Begins ((type.chars spaces).takeWhile isBare) type.beginning :=
    (type.begins spaces).takeWhile_isBare fun c hc => (type.beginning_bare c hc).1
  have hhead : ∀ c ∈ ((type.chars spaces).takeWhile isBare).head?, isBlank c = false :=
    fun c hc => (type.beginning_bare c (hbegins.mem_of_head? type.beginning_ne_nil c hc)).2
  rw [TypeSyntax.text, isAbstraction_of_shows (type.bracket_notMem spaces) hhead
    (type.reads spaces).shows, TypeSyntax.shown]
  cases type.glance.name with
  | none => exact hbegins.isInterfaceName_eq
  | some name => rfl

/-- Behind a dot, the segment that is taken for the last is what is seen of a dotted name. -/
theorem glance_segments (first : Segment) (more : List Segment) :
    ((⟨some first.name.chars, first.isGeneric⟩ : Glance) ++ Segment.glanceRest more).name =
      some (shownSegment first more).name.chars := by
  induction more generalizing first with
  | nil => rw [Segment.glanceRest, Glance.append_nothing, shownSegment]
  | cons next more ih =>
    cases hfirst : first.isGeneric with
    | true => rw [Glance.name_append_of_ends, shownSegment, if_pos hfirst]
    | false =>
      rw [Glance.name_append, Segment.glanceRest, ih, Option.some_or, shownSegment,
        if_neg (by simp [hfirst])]

theorem TypeSyntax.shown_dotted (first : Segment) (more : List Segment) :
    (TypeSyntax.dotted first more).shown = (shownSegment first more).name.chars := by
  obtain _ | ⟨next, more⟩ := more
  · rw [TypeSyntax.shown, TypeSyntax.glance, Segment.glanceRest, Glance.append_nothing]
    rfl
  · rw [TypeSyntax.shown, TypeSyntax.glance, Segment.glanceRest]
    cases hfirst : first.isGeneric with
    | true =>
      rw [Glance.name_append_of_ends, shownSegment, if_pos hfirst]
      rfl
    | false =>
      rw [Glance.nothing_append, glance_segments, shownSegment, if_neg (by simp [hfirst])]
      rfl

/-- Nullability hides nothing. -/
theorem TypeSyntax.shown_nullable (type : TypeSyntax) :
    (TypeSyntax.nullable type).shown = type.shown := by
  rw [TypeSyntax.shown, TypeSyntax.glance, TypeSyntax.shown]
  obtain ⟨name, _ | _⟩ := type.glance <;> rfl

theorem TypeSyntax.shown_of_segments {type : TypeSyntax} {first : Segment} {more : List Segment}
    (h : type.segments? = some (first, more)) :
    type.shown = (shownSegment first more).name.chars := by
  match type, h with
  | .dotted _ _, rfl => exact TypeSyntax.shown_dotted first more
  | .nullable (.dotted _ _), rfl =>
    rw [TypeSyntax.shown_nullable, TypeSyntax.shown_dotted]

/-- Where no segment before the last has generic arguments, the last is taken for the last. -/
theorem shownSegment_eq_lastSegment {first : Segment} {more : List Segment}
    (h : ∀ outer ∈ (first :: more).dropLast, outer.isGeneric = false) :
    shownSegment first more = lastSegment first more := by
  induction more generalizing first with
  | nil => rfl
  | cons next more ih =>
    rw [List.dropLast_cons_of_ne_nil (List.cons_ne_nil next more)] at h
    obtain ⟨hfirst, hmore⟩ := List.forall_mem_cons.1 h
    rw [shownSegment, if_neg (by simp [hfirst]), ih hmore, lastSegment, lastSegment,
      List.getLast?_cons, Option.getD_some]

theorem TypeSyntax.isInterface_of_segments {type : TypeSyntax} {first : Segment}
    {more : List Segment} (h : type.segments? = some (first, more)) :
    type.isInterface = isInterfaceName (lastSegment first more).name.chars := by
  rw [TypeSyntax.isInterface, h, Option.any_some]

/-- Whatever the type is, the classifier goes by the name that it sees. For a dotted name or the
nullable type of one, this is the name of the first segment with generic arguments, or else of the
last segment; the answer is then the one of the convention exactly when these two names agree on it,
and so where no segment before the last has generic arguments. Any other type is rightly found to be
no interface exactly when what is seen of it is not the name of one. -/
theorem TypeSyntax.isAbstraction_text (spaces : Nat) (type : TypeSyntax) :
    let answer := Classifier.interfaceConvention.isAbstraction (type.text spaces)
    answer = isInterfaceName type.shown ∧
      (∀ first more, type.segments? = some (first, more) →
        type.shown = (shownSegment first more).name.chars ∧
        (answer = type.isInterface ↔ isInterfaceName (shownSegment first more).name.chars =
          isInterfaceName (lastSegment first more).name.chars) ∧
        ((∀ outer ∈ (first :: more).dropLast, outer.isGeneric = false) →
          answer = type.isInterface)) ∧
      (type.segments? = none →
        (answer = type.isInterface ↔ isInterfaceName type.shown = false)) := by
  intro answer
  have hanswer : answer = isInterfaceName type.shown := type.isAbstraction_eq_shown spaces
  refine ⟨hanswer, fun first more hsegments => ?_, fun hsegments => ?_⟩
  · have hshown := TypeSyntax.shown_of_segments hsegments
    rw [hanswer, hshown, TypeSyntax.isInterface_of_segments hsegments]
    exact ⟨rfl, Iff.rfl, fun houter => by rw [shownSegment_eq_lastSegment houter]⟩
  · rw [hanswer, TypeSyntax.isInterface, hsegments]
    rfl

/-- A segment without generic arguments, by the characters of its name. -/
def Segment.plain (chars : List Char) (h : chars ≠ [] ∧ chars.all isNameCharacter = true) : Segment :=
  ⟨⟨chars, h.1, h.2⟩, []⟩

/-- The segment with other generic arguments. -/
def Segment.of (segment : Segment) (arguments : List TypeSyntax) : Segment :=
  ⟨segment.name, arguments⟩

/-- The type `int`. -/
def intType : TypeSyntax :=
  .dotted (.plain ['i', 'n', 't'] (by decide)) []

/-- The type `App.IFoo`. -/
def fooType : TypeSyntax :=
  .dotted (.plain ['A', 'p', 'p'] (by decide)) [.plain ['I', 'F', 'o', 'o'] (by decide)]

/-- The type `App.IMap<int, App.IFoo>?`. -/
def mapType : TypeSyntax :=
  .nullable (.dotted (.plain ['A', 'p', 'p'] (by decide))
    [(Segment.plain ['I', 'M', 'a', 'p'] (by decide)).of [intType, fooType]])

/-- Nullability and the arguments of the last segment do not count. -/
theorem TypeSyntax.isAbstraction_text_map :
    mapType.text 1 = "App.IMap<int, App.IFoo>?" ∧
      ∃ first more, mapType.segments? = some (first, more) ∧
        (∀ outer ∈ (first :: more).dropLast, outer.isGeneric = false) ∧
        mapType.isInterface = true ∧
        Classifier.interfaceConvention.isAbstraction (mapType.text 1) = true := by
  refine ⟨by decide +kernel, _, _, rfl, ?_⟩
  have houter : ∀ outer ∈ [Segment.plain ['A', 'p', 'p'] (by decide)], outer.isGeneric = false :=
    List.forall_mem_singleton.2 rfl
  have hanswer := ((TypeSyntax.isAbstraction_text 1 mapType).2.1 _ _ rfl).2.2 houter
  have hinterface : mapType.isInterface = true := by decide
  exact ⟨houter, hinterface, hanswer.trans hinterface⟩

/-- The generic arguments of an outer type hide the name of the nested one. A pointer is taken for
what it points to, and a tuple for its last element. -/
theorem TypeSyntax.misread_types :
    (∃ type : TypeSyntax, type.text 1 = "Outer<int>.IInner" ∧ type.isInterface = true ∧
      Classifier.interfaceConvention.isAbstraction (type.text 1) = false) ∧
    (∃ type : TypeSyntax, type.text 1 = "IOuter<int>.Inner" ∧ type.isInterface = false ∧
      Classifier.interfaceConvention.isAbstraction (type.text 1) = true) ∧
    (∃ type : TypeSyntax, type.text 1 = "App.IFoo*" ∧ type.isInterface = false ∧
      Classifier.interfaceConvention.isAbstraction (type.text 1) = true) ∧
    (∃ type : TypeSyntax, type.text 1 = "(int, App.IFoo)" ∧ type.isInterface = false ∧
      Classifier.interfaceConvention.isAbstraction (type.text 1) = true) := by
  refine ⟨⟨.dotted ((Segment.plain ['O', 'u', 't', 'e', 'r'] (by decide)).of [intType])
      [.plain ['I', 'I', 'n', 'n', 'e', 'r'] (by decide)], ?_⟩,
    ⟨.dotted ((Segment.plain ['I', 'O', 'u', 't', 'e', 'r'] (by decide)).of [intType])
      [.plain ['I', 'n', 'n', 'e', 'r'] (by decide)], ?_⟩,
    ⟨.pointer fooType, ?_⟩,
    ⟨.tuple ⟨intType, none⟩ [⟨fooType, none⟩], ?_⟩⟩ <;> decide +kernel

end Scaffold.Fixture
