import SourceAudit.Rule.ReactProps
import SourceAudit.Proofs.SyntaxTree.Moved

/-!
# Elements inside elements

The rule on complex props allows one member less in an element that is inside another one,
but never less than one.

* `isComplex_of_le`: where fewer members are allowed, no fewer object literals are complex.
* `fault?_eq_some_iff`: when an attribute is found fault with.
* `reported_of_more_elements`: an object literal that is reported stays reported when its
  element is put inside more elements, unless no member was allowed and it has just one.
-/

namespace SourceAudit.ReactProps

open Text Node

/-! ### Measures of moved nodes -/

theorem measure_eq (n : Node) :
  measure n
    = if n.isOneOf functionKinds then ownComplexity n.kind
      else (ownComplexity n.kind).add (measureAll n.children)
  := by
  cases n with
  | node label children =>
      rw [measure]
      rfl

theorem measureAll_congr {ns ns' : List Node}
    (h : List.Forall₂ (fun n n' => measure n = measure n') ns ns') :
  measureAll ns = measureAll ns'
  := by
  induction h with
  | nil => rfl
  | cons hn _ ih => rw [measureAll, measureAll, hn, ih]

section

variable {source source' : Octets} {n n' : Node}

theorem measure_moved (h : Moved source source' n n') :
  measure n = measure n'
  := by
  apply Moved.induct (P := fun n n' => measure n = measure n') _ h
  intro n n' h hchildren
  have hsum : measureAll n.children = measureAll n'.children := by
    apply measureAll_congr
    exact hchildren.imp fun c c' hc => hc.2
  rw [measure_eq, measure_eq, h.isOneOf_eq, h.kind_eq, hsum]

theorem members_moved (h : Moved source source' n n') :
  List.Forall₂ (Moved source source') (members n) (members n')
  := by
  apply Moved.filter _ h.parts
  intro c c' hc
  apply hc.isOneOf_eq

theorem pairValues_moved (h : Moved source source' n n') :
  List.Forall₂ (Moved source source') (pairValues n) (pairValues n')
  := by
  have hpairs := Moved.filter (p := (·.isA "pair")) (fun hc => hc.isA_eq _) (members_moved h)
  apply List.rel_filterMap _ hpairs
  intro c c' hc
  apply hc.pairValue

theorem isComplex_moved (h : Moved source source' n n') (maxMembers maxTernaries : Nat) :
  isComplex maxMembers maxTernaries n = isComplex maxMembers maxTernaries n'
  := by
  have hmeasure : measureAll (pairValues n) = measureAll (pairValues n') := by
    apply measureAll_congr
    exact (pairValues_moved h).imp fun c c' hc => measure_moved hc
  rw [isComplex, isComplex, (members_moved h).length_eq, hmeasure]

theorem attributeName?_moved (h : Moved source source' n n') :
  attributeName? source n = attributeName? source' n'
  := by
  rw [attributeName?, attributeName?, ← List.head?_filter, ← List.head?_filter]
  have hnames := rel_head? (Moved.filter (fun hc => hc.isOneOf_eq
    ["property_identifier", "jsx_namespace_name", "identifier"]) h.children)
  generalize List.head? _ = name at hnames ⊢
  generalize List.head? _ = name' at hnames ⊢
  cases hnames with
  | none => rfl
  | some hname => rw [Option.map_some, Option.map_some, hname.textIn_eq]

theorem bracedObject?_moved (h : Moved source source' n n') :
  Option.Rel (Moved source source') (bracedObject? n) (bracedObject? n')
  := by
  have hparts := h.parts
  rw [bracedObject?, bracedObject?, h.isA_eq]
  generalize n.parts = parts at hparts ⊢
  generalize n'.parts = parts' at hparts ⊢
  split
  · cases hparts with
    | nil => exact .none
    | cons hinner _ =>
        dsimp only
        rw [hinner.isA_eq]
        split
        · exact .some hinner
        · exact .none
  · exact .none

theorem objectValue?_moved (h : Moved source source' n n') :
  Option.Rel (Moved source source') (objectValue? n) (objectValue? n')
  := by
  rw [objectValue?, objectValue?, ← List.head?_filterMap, ← List.head?_filterMap]
  apply rel_head?
  apply List.rel_filterMap _ h.parts
  intro c c' hc
  apply bracedObject?_moved hc

end

/-! ### Limits -/

theorem isComplex_eq_true_iff (maxMembers maxTernaries : Nat) (object : Node) :
  isComplex maxMembers maxTernaries object = true
    ↔ maxMembers < (members object).length
      ∨ isComplex (members object).length maxTernaries object = true
  := by
  simp only [isComplex, Bool.or_eq_true, decide_eq_true_iff, Nat.lt_irrefl]
  tauto

/-- Where fewer members are allowed, no fewer object literals are complex. -/
theorem isComplex_of_le {maxMembers maxMembers' : Nat} (hle : maxMembers ≤ maxMembers')
    {maxTernaries : Nat} {object : Node} (h : isComplex maxMembers' maxTernaries object = true) :
  isComplex maxMembers maxTernaries object = true
  := by
  rw [isComplex_eq_true_iff] at h ⊢
  exact h.imp_left (Nat.lt_of_le_of_lt hle)

/-- The number of elements with contents among some nodes. -/
def elementsIn (above : List Node) : Nat :=
  above.countP (·.isA "jsx_element")

theorem elementsIn_append (above inner : List Node) :
  elementsIn (above ++ inner) = elementsIn above + elementsIn inner
  := List.countP_append

theorem elementsIn_moved {source source' : Octets} {above above' : List Node}
    (h : List.Forall₂ (Moved source source') above above') :
  elementsIn above = elementsIn above'
  := by
  rw [elementsIn, elementsIn, List.countP_eq_length_filter, List.countP_eq_length_filter]
  exact (Moved.filter (fun hc => hc.isA_eq "jsx_element") h).length_eq

/-- The number of elements that the last of some nodes opens itself. -/
def elementsOpened (above : List Node) : Nat :=
  match above.getLast? with
  | some n => if n.isA "jsx_opening_element" then 1 else 0
  | none => 0

theorem isNested_eq (above : List Node) :
  isNested above = decide (elementsOpened above < elementsIn above)
  := rfl

theorem elementsOpened_append (above : List Node) {inner : List Node} (h : inner ≠ []) :
  elementsOpened (above ++ inner) = elementsOpened inner
  := by
  rw [elementsOpened, elementsOpened, List.getLast?_append_of_ne_nil above h]

theorem elementsOpened_moved {source source' : Octets} {above above' : List Node}
    (h : List.Forall₂ (Moved source source') above above') :
  elementsOpened above = elementsOpened above'
  := by
  have hlast := rel_getLast? h
  rw [elementsOpened, elementsOpened]
  generalize above.getLast? = last at hlast ⊢
  generalize above'.getLast? = last' at hlast ⊢
  cases hlast with
  | none => rfl
  | some hn =>
      dsimp only
      rw [hn.isA_eq]

/-- What is inside another element stays so after more elements. -/
theorem isNested_of_more_elements {source source' : Octets}
    {above above' inner inner' : List Node} (hmore : elementsIn above ≤ elementsIn above')
    (hne : inner ≠ []) (hinner : List.Forall₂ (Moved source source') inner inner')
    (h : isNested (above ++ inner) = true) :
  isNested (above' ++ inner') = true
  := by
  have hne' : inner' ≠ [] := by
    rintro rfl
    exact hne (List.forall₂_nil_right_iff.mp hinner)
  rw [isNested_eq, decide_eq_true_iff, elementsIn_append] at h ⊢
  rw [elementsOpened_append above hne, elementsOpened_moved hinner, elementsIn_moved hinner] at h
  rw [elementsOpened_append above' hne']
  omega

theorem memberLimit_of_nested {above : List Node} (h : isNested above = true) (o : Options) :
  memberLimit o above = max 1 (o.maxInlineProps - 1)
  := if_pos h

theorem memberLimit_of_not_nested {above : List Node} (h : isNested above = false)
    (o : Options) :
  memberLimit o above = o.maxInlineProps
  := if_neg (by simp [h])

/-- An object literal with one member, found fault with only because no member is allowed. -/
structure Tolerated (o : Options) (object : Node) : Prop where
  noneAllowed : o.maxInlineProps = 0
  oneMember : (members object).length = 1
  notComplex : isComplex 1 o.maxTernaryOperations object = false

/-- The lower limit finds all complex object literals but those with one member where none is
allowed. -/
theorem isComplex_lowered_iff {o : Options} {object : Node}
    (h : isComplex o.maxInlineProps o.maxTernaryOperations object = true) :
  isComplex (max 1 (o.maxInlineProps - 1)) o.maxTernaryOperations object = true
    ↔ ¬ Tolerated o object
  := by
  constructor
  · rintro hlowered ⟨hnone, -, hnot⟩
    rw [hnone] at hlowered
    exact Bool.false_ne_true (hnot.symm.trans hlowered)
  · intro hno
    rcases Nat.eq_zero_or_pos o.maxInlineProps with hnone | hsome
    · rw [hnone] at h ⊢
      by_contra hnot
      apply hno
      rw [isComplex_eq_true_iff] at h hnot
      rw [not_or] at hnot
      have hlength : (members object).length = 1 := by
        have hpos := h.resolve_right hnot.2
        have hle := hnot.1
        omega
      use hnone, hlength
      rw [← hlength]
      simpa using hnot.2
    · apply isComplex_of_le _ h
      omega

/-- A complex object literal stays complex inside more elements, unless one member is tolerated
there. -/
theorem isComplex_memberLimit_iff {o : Options} {above above' : List Node} {object : Node}
    (hnested : isNested above = true → isNested above' = true)
    (h : isComplex (memberLimit o above) o.maxTernaryOperations object = true) :
  isComplex (memberLimit o above') o.maxTernaryOperations object = true
    ↔ ¬ (isNested above' = true ∧ Tolerated o object)
  := by
  cases hbefore : isNested above with
  | true =>
      have hafter := hnested hbefore
      rw [memberLimit_of_nested hbefore] at h
      rw [memberLimit_of_nested hafter]
      refine iff_of_true h ?_
      rintro ⟨-, hnone, -, hnot⟩
      rw [hnone] at h
      exact Bool.false_ne_true (hnot.symm.trans h)
  | false =>
      rw [memberLimit_of_not_nested hbefore] at h
      cases hafter : isNested above' with
      | true =>
          rw [memberLimit_of_nested hafter, isComplex_lowered_iff h]
          simp
      | false =>
          rw [memberLimit_of_not_nested hafter]
          exact iff_of_true h (by simp)

/-! ### Reports -/

theorem fault?_eq_some_iff {o : Options} {source : Octets} {attr object : Node}
    {above : List Node} :
  fault? o source attr above = some object
    ↔ attr.isA "jsx_attribute" = true
      ∧ (attributeName? source attr).any o.ignoreProps.contains = false
      ∧ objectValue? attr = some object
      ∧ isComplex (memberLimit o above) o.maxTernaryOperations object = true
  := by
  rw [fault?]
  split
  · rename_i hkind
    simp_all
  · split
    · rename_i hignored
      simp_all
    · split
      · rename_i object' hobject
        rw [Option.ite_none_right_eq_some, hobject]
        grind
      · rename_i hnone
        simp_all

/-- A walk of the tree comes to an attribute whose object literal is found fault with. -/
structure Reported (o : Options) (file : FileContext) (root attr : Node) (above : List Node)
    (object : Node) : Prop where
  visited : (attr, above) ∈ root.walk
  faulty : fault? o file.octets attr above = some object

/-- What is said about an object literal. -/
def complaint (file : FileContext) (object : Node) : Diagnostic :=
  about.finding file object "Complex props should be extracted into a helper function"
    (some "Build the object in a named helper (or a memoized value) and pass the result.")

/-- The findings in a file are about the object literals that are reported. -/
theorem mem_check_iff (o : Options) (file : FileContext) (root : Node) (d : Diagnostic) :
  d ∈ check o file root
    ↔ ∃ attr above object, Reported o file root attr above object ∧ d = complaint file object
  := by
  rw [check, faults, List.mem_map]
  simp only [List.mem_filterMap, Prod.exists]
  constructor
  · rintro ⟨object, ⟨attr, above, hvisited, hfaulty⟩, rfl⟩
    use attr, above, object, ⟨hvisited, hfaulty⟩
    rfl
  · rintro ⟨attr, above, object, ⟨hvisited, hfaulty⟩, rfl⟩
    use object, ⟨attr, above, hvisited, hfaulty⟩
    rfl

/-- An attribute in an element is not the element. -/
theorem ne_nil_of_isA_attribute {element attr : Node} {inner : List Node}
    (helement : element.isOneOf ["jsx_element", "jsx_self_closing_element"] = true)
    (hvisited : (attr, inner) ∈ element.walk) (hattr : attr.isA "jsx_attribute" = true) :
  inner ≠ []
  := by
  rintro rfl
  rcases mem_walk_iff.mp hvisited with ⟨rfl, -⟩ | ⟨c, -, inner, -, h⟩
  · rw [isA, beq_iff_eq] at hattr
    rw [isOneOf, hattr] at helement
    exact absurd helement (by decide)
  · cases h

/-- An object literal that is reported stays reported when its element is put inside more
elements, be it in another file, with the one exception of an object literal with one member
where no member is allowed: inside another element it is reported only if it is complex for
another reason. -/
theorem reported_of_more_elements {o : Options} {file file' : FileContext}
    {root root' element element' : Node} {above above' : List Node}
    (hmoved : Moved file.octets file'.octets element element')
    (helement : element.isOneOf ["jsx_element", "jsx_self_closing_element"] = true)
    (hplace : (element', above') ∈ root'.walk) (hmore : elementsIn above ≤ elementsIn above')
    {k : Nat} {attr object : Node} {inner : List Node}
    (hattr : element.walk[k]? = some (attr, inner))
    (hreported : Reported o file root attr (above ++ inner) object) :
  ∃ attr' inner' object', element'.walk[k]? = some (attr', inner')
    ∧ Moved file.octets file'.octets attr attr' ∧ Moved file.octets file'.octets object object'
    ∧ (Reported o file' root' attr' (above' ++ inner') object'
      ↔ ¬ (isNested (above' ++ inner') = true ∧ Tolerated o object))
  := by
  obtain ⟨hkind, hname, hobject, hcomplex⟩ := fault?_eq_some_iff.mp hreported.faulty
  obtain ⟨⟨attr', inner'⟩, hattr', hmoved', hinner⟩ := hmoved.getElem?_walk hattr
  have hvisited' := mem_walk_of_mem_walk hplace (List.mem_of_getElem? hattr')
  have hne := ne_nil_of_isA_attribute helement (List.mem_of_getElem? hattr) hkind
  have hvalue := objectValue?_moved hmoved'
  rw [hobject] at hvalue
  obtain ⟨object', hobject', hsame⟩ : ∃ object', objectValue? attr' = some object'
      ∧ Moved file.octets file'.octets object object' := by
    generalize objectValue? attr' = value at hvalue
    cases hvalue with
    | some hsame => exact ⟨_, rfl, hsame⟩
  use attr', inner', object', hattr', hmoved', hsame
  have hnested : isNested (above ++ inner) = true → isNested (above' ++ inner') = true :=
    isNested_of_more_elements hmore hne hinner
  rw [← isComplex_memberLimit_iff hnested hcomplex, isComplex_moved hsame]
  constructor
  · intro hreported'
    exact (fault?_eq_some_iff.mp hreported'.faulty).2.2.2
  · intro hcomplex'
    use hvisited'
    apply fault?_eq_some_iff.mpr
    refine ⟨?_, ?_, hobject', hcomplex'⟩
    · rw [← hmoved'.isA_eq]
      exact hkind
    · rw [← attributeName?_moved hmoved']
      exact hname

/-! ### An element by itself and in another one -/

/-- The pair `d: 1`. -/
def examplePair (first : Nat) : Node :=
  .between "pair" first (first + 4)
    [.between "property_identifier" first (first + 1) [],
      .between "number" (first + 3) (first + 4) []]

/-- An object literal with so many pairs. -/
def exampleObject (count : Nat) : Node :=
  .between "object" 6 (6 + 6 * count) ((List.range count).map fun k => examplePair (7 + 6 * k))

def exampleAttribute (count : Nat) : Node :=
  .between "jsx_attribute" 3 (7 + 6 * count)
    [.between "property_identifier" 3 4 [],
      .between "jsx_expression" 5 (7 + 6 * count) [exampleObject count]]

/-- The element `<B c={{ .. }}/>`. -/
def exampleElement (count : Nat) : Node :=
  .between "jsx_self_closing_element" 0 (9 + 6 * count)
    [.between "identifier" 1 2 [], exampleAttribute count]

/-- The element after the octets of `<A>`. -/
def exampleInner (count : Nat) : Node :=
  (exampleElement count).shift 3 fun p => { p with column := 3 + p.column }

/-- The element in another one, `<A><B c={{ .. }}/></A>`. -/
def exampleOuter (count : Nat) : Node :=
  .between "jsx_element" 0 (16 + 6 * count)
    [.between "jsx_opening_element" 0 3 [], exampleInner count,
      .between "jsx_closing_element" (12 + 6 * count) (16 + 6 * count) []]

theorem moved_exampleInner {count : Nat} {alone inside : Octets}
    (hinside : inside = encode "<A>".toList ++ alone ++ encode "</A>".toList)
    (h : ∀ place ∈ (exampleElement count).walk, place.1.label.endOctet ≤ alone.length) :
  Moved alone inside (exampleElement count) (exampleInner count)
  := by
  rw [hinside]
  exact moved_shift h (encode "<A>".toList) _ _

theorem exampleAttribute_mem_walk (count : Nat) :
  (exampleAttribute count, [exampleElement count]) ∈ (exampleElement count).walk
  := mem_walk_of_mem_children (List.mem_cons_of_mem _ List.mem_cons_self)

theorem exampleInner_mem_walk (count : Nat) :
  (exampleInner count, [exampleOuter count]) ∈ (exampleOuter count).walk
  := mem_walk_of_mem_children (List.mem_cons_of_mem _ List.mem_cons_self)

/-- Three members are too many for an element by itself, and for an element in another one. -/
theorem reported_of_more_elements_three_members :
  let alone := FileContext.single "a.tsx" "<B c={{d: 1, e: 2, f: 3}}/>" (some (exampleElement 3))
  let inside := FileContext.single "a.tsx" "<A><B c={{d: 1, e: 2, f: 3}}/></A>"
    (some (exampleOuter 3))
  Moved alone.octets inside.octets (exampleElement 3) (exampleInner 3)
    ∧ Reported {} alone (exampleElement 3) (exampleAttribute 3) [exampleElement 3]
      (exampleObject 3)
    ∧ ∃ attr' inner' object', (exampleInner 3).walk[2]? = some (attr', inner')
      ∧ Reported {} inside (exampleOuter 3) attr' (exampleOuter 3 :: inner') object'
  := by
  intro alone inside
  have hmoved : Moved alone.octets inside.octets (exampleElement 3) (exampleInner 3) :=
    moved_exampleInner (by decide +kernel) (by decide +kernel)
  have hreported : Reported {} alone (exampleElement 3) (exampleAttribute 3) [exampleElement 3]
      (exampleObject 3) := by
    use exampleAttribute_mem_walk 3
    apply fault?_eq_some_iff.mpr
    exact ⟨by decide, by decide +kernel, rfl, by decide⟩
  use hmoved, hreported
  have hmore : elementsIn [] ≤ elementsIn [exampleOuter 3] := Nat.zero_le _
  obtain ⟨attr', inner', object', hattr', -, -, hiff⟩ := reported_of_more_elements hmoved rfl
    (exampleInner_mem_walk 3) hmore (k := 2) rfl hreported
  use attr', inner', object', hattr'
  apply hiff.mpr
  rintro ⟨-, hnone, -⟩
  cases hnone

/-- Where no member is allowed, one member is too many for an element by itself, and not for the
same element in another one. -/
theorem not_reported_of_one_member :
  let o : Options := { maxInlineProps := 0 }
  let alone := FileContext.single "a.tsx" "<B c={{d: 1}}/>" (some (exampleElement 1))
  let inside := FileContext.single "a.tsx" "<A><B c={{d: 1}}/></A>" (some (exampleOuter 1))
  Moved alone.octets inside.octets (exampleElement 1) (exampleInner 1)
    ∧ Reported o alone (exampleElement 1) (exampleAttribute 1) [exampleElement 1]
      (exampleObject 1)
    ∧ (exampleInner 1, [exampleOuter 1]) ∈ (exampleOuter 1).walk
    ∧ elementsIn [] = 0 ∧ elementsIn [exampleOuter 1] = 1
    ∧ ∀ attr' above' object', ¬ Reported o inside (exampleOuter 1) attr' above' object'
  := by
  intro o alone inside
  have hreported : Reported o alone (exampleElement 1) (exampleAttribute 1) [exampleElement 1]
      (exampleObject 1) := by
    use exampleAttribute_mem_walk 1
    apply fault?_eq_some_iff.mpr
    exact ⟨by decide, by decide +kernel, rfl, by decide⟩
  use moved_exampleInner (by decide +kernel) (by decide +kernel), hreported,
    exampleInner_mem_walk 1, rfl, rfl
  intro attr' above' object' hreported'
  have hcheck : check o inside (exampleOuter 1) = [] := by
    decide +kernel
  have hmem := (mem_check_iff o inside (exampleOuter 1) _).mpr
    ⟨attr', above', object', hreported', rfl⟩
  rw [hcheck] at hmem
  cases hmem

end SourceAudit.ReactProps
