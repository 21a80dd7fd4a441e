import ContractAudit.Proofs.Facts.Origins

/-!
# The slots of a tuple declaration

A tuple declares its variables between commas and may leave any place empty, so that a slot shows only in what stands
between two commas. The loop over the children of a tuple keeps one bit: whether the slot under way has been declared.
A tuple that is laid out as segments between commas (`IsTuple`) has one slot for every segment, in their order
(`forall₂_tupleSlots`): that of the declaration in the segment, or a skipped one.

What a statement declares can also be gathered as three columns, of names, types and storage words, that grow by one
entry each at a time (`columnsOf`). They are the columns of the slots (`columnsOf_eq`).
-/

namespace ContractAudit.Facts

open Solidity
open ContractAudit.Tree (Node cleanNode)

/-! ## Declarations of a tuple -/

/-- The node declares a slot of a tuple: a variable with its type, or a name alone. -/
def declaresSlot (n : Node) : Bool := n.kind == "variable_declaration" || n.kind == "identifier"

/-- The node ends a slot of a tuple. -/
def endsSlot (n : Node) : Bool := n.kind == "," || n.kind == ")"

/-- The slot that a node declares. A name alone says nothing about type and storage. -/
def declaredSlot (source : List Char) (n : Node) : Slot :=
  if n.kind = "identifier" then ⟨some (String.ofList (n.head.text source)), none, none⟩ else (siteOf source n).slot

/-- What may stand between two commas: at most one declaration, and no other comma or closing bracket. -/
structure IsSegment (segment : List Node) : Prop where
  single : (segment.filter declaresSlot).length ≤ 1
  inside : ∀ n ∈ segment, endsSlot n = false

/-- `Laid segments ns`: the nodes are the segments with a comma between neighbours and a closing bracket at the end. -/
inductive Laid : List (List Node) → List Node → Prop
  | last {segment : List Node} {closing : Node} (h : closing.kind = ")") : Laid [segment] (segment ++ [closing])
  | next {segment ns : List Node} {comma : Node} {segments : List (List Node)} (h : comma.kind = ",")
    (hrest : Laid segments ns) : Laid (segment :: segments) (segment ++ comma :: ns)

/-- The node is a tuple that is made of the segments. -/
structure IsTuple (tuple : Node) (segments : List (List Node)) : Prop where
  kind : tuple.kind = "variable_declaration_tuple"
  laid : ∃ bracket ns, tuple.children = bracket :: ns ∧ bracket.kind = "(" ∧ Laid segments ns
  segment : ∀ segment ∈ segments, IsSegment segment

/-- `SlotOf source segment slot`: the slot comes from the declaration in the segment, or is skipped for want of one. -/
inductive SlotOf (source : List Char) (segment : List Node) : Slot → Prop
  | declared {n : Node} (hn : n ∈ segment) (h : declaresSlot n = true) : SlotOf source segment (declaredSlot source n)
  | skipped (h : ∀ n ∈ segment, declaresSlot n = false) : SlotOf source segment .skipped

theorem IsSegment.declarations {segment : List Node} (h : IsSegment segment) :
    segment.filter declaresSlot = [] ∨ ∃ n ∈ segment, declaresSlot n = true ∧ segment.filter declaresSlot = [n] := by
  have hsingle := h.single
  cases hfound : segment.filter declaresSlot with
  | nil => exact .inl rfl
  | cons n more =>
    rw [hfound, List.length_cons] at hsingle
    obtain rfl : more = [] := List.eq_nil_of_length_eq_zero (by omega)
    have hmem : n ∈ segment.filter declaresSlot := by simp [hfound]
    obtain ⟨hn, hdeclares⟩ := List.mem_filter.mp hmem
    exact .inr ⟨n, hn, hdeclares, rfl⟩

theorem SlotOf.eq_declaredSlot {source : List Char} {segment : List Node} {slot : Slot} (h : SlotOf source segment slot)
    (hsegment : IsSegment segment) {n : Node} (hn : n ∈ segment) (hdeclares : declaresSlot n = true) :
    slot = declaredSlot source n := by
  have hmem : n ∈ segment.filter declaresSlot := List.mem_filter.mpr ⟨hn, hdeclares⟩
  cases h with
  | @declared m hm hdeclared =>
    have hmem' : m ∈ segment.filter declaresSlot := List.mem_filter.mpr ⟨hm, hdeclared⟩
    rcases hsegment.declarations with hnone | ⟨d, -, -, hone⟩
    · simp [hnone] at hmem
    · rw [hone, List.mem_singleton] at hmem hmem'
      rw [hmem, hmem']
  | skipped hnone =>
    rw [hnone n hn] at hdeclares
    cases hdeclares

theorem SlotOf.name_eq_some_iff {source : List Char} {segment : List Node} {slot : Slot}
    (h : SlotOf source segment slot) (hsegment : IsSegment segment) {name : String} :
    slot.name = some name ↔ ∃ n ∈ segment, declaresSlot n = true ∧ (declaredSlot source n).name = some name := by
  constructor
  · intro hname
    cases h with
    | declared hn hdeclares => exact ⟨_, hn, hdeclares, hname⟩
    | skipped _ => cases hname
  · rintro ⟨n, hn, hdeclares, hname⟩
    rw [h.eq_declaredSlot hsegment hn hdeclares, hname]

/-! ## One slot for every segment -/

theorem kind_ofNode (source : List Char) (n : Node) : (Reading.ofNode source n).kind = n.kind := by
  rw [Reading.kind, Reading.head_ofNode, Node.kind]

theorem tupleSlots_ofNode (s : Site) (filled : Bool) (n : Node) (rest : List Reading) :
    s.tupleSlots filled (Reading.ofNode s.source n :: rest) =
      if declaresSlot n then declaredSlot s.source n :: s.tupleSlots true rest
      else if endsSlot n then (if filled then [] else [.skipped]) ++ s.tupleSlots false rest
      else s.tupleSlots filled rest := by
  have htext : s.textOf (Reading.ofNode s.source n) = String.ofList (n.head.text s.source) := by
    rw [Site.textOf, Reading.head_ofNode]
  have hslot : s.below (Reading.ofNode s.source n) = siteOf s.source n := rfl
  rw [Site.tupleSlots, kind_ofNode, htext, hslot]
  unfold declaresSlot endsSlot declaredSlot
  split
  case h_1 h | h_2 h => simp [h]
  case h_3 h | h_4 h => cases filled <;> simp [h]
  case h_5 => simp_all

theorem tupleSlots_segment (s : Site) {segment : List Node} (h : ∀ n ∈ segment, endsSlot n = false) (filled : Bool)
    (rest : List Reading) :
    s.tupleSlots filled (segment.map (Reading.ofNode s.source) ++ rest) =
      (segment.filter declaresSlot).map (declaredSlot s.source) ++
        s.tupleSlots (filled || segment.any declaresSlot) rest := by
  induction segment generalizing filled with
  | nil => simp
  | cons n segment ih =>
    have hn : endsSlot n = false := h n List.mem_cons_self
    have hrest := ih fun m hm => h m (List.mem_cons_of_mem n hm)
    rw [List.map_cons, List.cons_append, tupleSlots_ofNode, hn]
    cases hdeclares : declaresSlot n <;> simp [hdeclares, hrest]

/-- A segment and the comma or bracket behind it make one slot, and the next segment starts undeclared. -/
theorem exists_slot_of_segment (s : Site) {segment : List Node} (h : IsSegment segment) (ending : Node)
    (hending : endsSlot ending = true) (rest : List Reading) :
    ∃ slot, SlotOf s.source segment slot ∧
      s.tupleSlots false (segment.map (Reading.ofNode s.source) ++ Reading.ofNode s.source ending :: rest) =
        slot :: s.tupleSlots false rest := by
  have hdeclares : declaresSlot ending = false := by
    simp only [endsSlot, Bool.or_eq_true, beq_iff_eq] at hending
    rcases hending with h | h <;> simp [declaresSlot, h]
  rw [tupleSlots_segment s h.inside, tupleSlots_ofNode, hdeclares, hending]
  rcases h.declarations with hfound | ⟨n, hn, hdeclared, hfound⟩
  · have hnone : ∀ n ∈ segment, declaresSlot n = false := by simpa [List.filter_eq_nil_iff] using hfound
    have hany : segment.any declaresSlot = false := by simpa using hnone
    exact ⟨.skipped, .skipped hnone, by simp [hfound, hany]⟩
  · have hany : segment.any declaresSlot = true := List.any_eq_true.mpr ⟨n, hn, hdeclared⟩
    exact ⟨declaredSlot s.source n, .declared hn hdeclared, by simp [hfound, hany]⟩

/-- **The slots of a tuple are those of its segments.** -/
theorem forall₂_tupleSlots (s : Site) {segments : List (List Node)} {ns : List Node} (h : Laid segments ns)
    (hsegments : ∀ segment ∈ segments, IsSegment segment) :
    List.Forall₂ (SlotOf s.source) segments (s.tupleSlots false (ns.map (Reading.ofNode s.source))) := by
  induction h with
  | @last segment closing hclosing =>
    have hsegment : IsSegment segment := hsegments segment (List.mem_singleton_self _)
    obtain ⟨slot, hslot, heq⟩ := exists_slot_of_segment s hsegment closing (by simp [endsSlot, hclosing]) []
    rw [List.map_append, List.map_singleton, heq]
    exact .cons hslot .nil
  | @next segment ns comma segments hcomma _ ih =>
    have hsegment : IsSegment segment := hsegments segment List.mem_cons_self
    obtain ⟨slot, hslot, heq⟩ := exists_slot_of_segment s hsegment comma (by simp [endsSlot, hcomma])
      (ns.map (Reading.ofNode s.source))
    rw [List.map_append, List.map_cons, heq]
    exact .cons hslot (ih fun t ht => hsegments t (List.mem_cons_of_mem segment ht))

/-! ## The slots of a statement -/

/-- The children of a declaration statement that declare something. -/
def declarators (n : Node) : List Node :=
  (n.children.filter (·.head.isPart)).filter fun c =>
    c.kind == "variable_declaration" || c.kind == "variable_declaration_tuple"

/-- The slots that a child of a declaration statement declares. -/
def childSlots (s : Site) (c : Node) : List Slot :=
  if c.kind = "variable_declaration" then [(siteOf s.source c).slot]
  else if c.kind = "variable_declaration_tuple" then s.tupleSlots false (c.children.map (Reading.ofNode s.source))
  else []

theorem slots_siteOf (source : List Char) (n : Node) :
    (siteOf source n).slots = (n.children.filter (·.head.isPart)).flatMap (childSlots (siteOf source n)) := by
  unfold Site.slots
  rw [parts_siteOf, List.flatMap_map]
  refine List.flatMap_congr fun c _ => ?_
  have hchildren : (Reading.ofNode source c).children = c.children.map (Reading.ofNode source) := children_siteOf source c
  rw [kind_ofNode, hchildren]
  unfold childSlots
  split
  case h_1 h | h_2 h =>
    rw [h]
    rfl
  case h_3 hvariable htuple => rw [if_neg hvariable, if_neg htuple]

theorem slots_of_declarators {source : List Char} {n c : Node} (h : declarators n = [c]) :
    (siteOf source n).slots = childSlots (siteOf source n) c := by
  obtain ⟨front, back, hparts, hfront, -, hback⟩ := List.filter_eq_cons_iff.mp h
  have hnone : ∀ m : Node, ¬ (m.kind == "variable_declaration" || m.kind == "variable_declaration_tuple") = true →
      childSlots (siteOf source n) m = [] := by
    intro m hm
    simp only [Bool.or_eq_true, beq_iff_eq, not_or] at hm
    rw [childSlots, if_neg hm.1, if_neg hm.2]
  rw [slots_siteOf, hparts, List.flatMap_append, List.flatMap_cons,
    List.flatMap_eq_nil_iff.mpr fun m hm => hnone m (hfront m hm),
    List.flatMap_eq_nil_iff.mpr fun m hm => hnone m (List.filter_eq_nil_iff.mp hback m hm)]
  simp

theorem forall₂_slots (source : List Char) {n tuple : Node} {segments : List (List Node)} (hn : declarators n = [tuple])
    (h : IsTuple tuple segments) : List.Forall₂ (SlotOf source) segments (siteOf source n).slots := by
  obtain ⟨bracket, ns, hchildren, hbracket, hlaid⟩ := h.laid
  have hpassed : (siteOf source n).tupleSlots false (tuple.children.map (Reading.ofNode source)) =
      (siteOf source n).tupleSlots false (ns.map (Reading.ofNode source)) := by
    rw [hchildren, List.map_cons]
    refine (tupleSlots_ofNode (siteOf source n) false bracket _).trans ?_
    simp [declaresSlot, endsSlot, hbracket]
  have hslots : (siteOf source n).slots = (siteOf source n).tupleSlots false (ns.map (Reading.ofNode source)) := by
    rw [slots_of_declarators hn, ← hpassed, childSlots, h.kind]
    rfl
  rw [hslots]
  exact forall₂_tupleSlots (siteOf source n) hlaid h.segment

/-! ## Three columns -/

/-- What a statement declares, as three columns. -/
structure Columns where
  names : List (Option String)
  types : List (Option TypeName)
  storages : List (Option String)

namespace Columns

/-- One more entry in every column. -/
def push (c : Columns) (name : Option String) (type : Option TypeName) (storage : Option String) : Columns where
  names := c.names ++ [name]
  types := c.types ++ [type]
  storages := c.storages ++ [storage]

/-- The columns behind one more child of a tuple, and whether the slot under way has been declared. -/
def afterPart (source : List Char) (state : Columns × Bool) (n : Node) : Columns × Bool :=
  if n.kind = "variable_declaration" then
    let slot := (siteOf source n).slot
    (state.1.push slot.name slot.type slot.storage, true)
  else if n.kind = "identifier" then (state.1.push (some (String.ofList (n.head.text source))) none none, true)
  else if n.kind = "," ∨ n.kind = ")" then (if state.2 then state.1 else state.1.push none none none, false)
  else state

/-- The columns behind one more child of a declaration statement. -/
def afterChild (source : List Char) (c : Columns) (n : Node) : Columns :=
  if n.kind = "variable_declaration" then
    let slot := (siteOf source n).slot
    c.push slot.name slot.type slot.storage
  else if n.kind = "variable_declaration_tuple" then (n.children.foldl (afterPart source) (c, false)).1
  else c

/-- The columns of some slots. -/
def ofSlots (slots : List Slot) : Columns := ⟨slots.map (·.name), slots.map (·.type), slots.map (·.storage)⟩

theorem push_ofSlots (slots : List Slot) (slot : Slot) :
    (ofSlots slots).push slot.name slot.type slot.storage = ofSlots (slots ++ [slot]) := by
  simp [ofSlots, push]

theorem afterPart_ofSlots (source : List Char) (slots : List Slot) (filled : Bool) (n : Node) :
    afterPart source (ofSlots slots, filled) n =
      if declaresSlot n then (ofSlots (slots ++ [declaredSlot source n]), true)
      else if endsSlot n then (ofSlots (slots ++ if filled then [] else [.skipped]), false)
      else (ofSlots slots, filled) := by
  have hskipped : (ofSlots slots).push none none none = ofSlots (slots ++ [.skipped]) := push_ofSlots slots .skipped
  unfold afterPart declaresSlot endsSlot declaredSlot
  by_cases hvariable : n.kind = "variable_declaration"
  · simp [hvariable, push_ofSlots]
  · by_cases hname : n.kind = "identifier"
    · simp [hname, ← push_ofSlots]
    · cases filled <;> simp [hvariable, hname, hskipped]

theorem foldl_afterPart (s : Site) (ns : List Node) (slots : List Slot) (filled : Bool) :
    (ns.foldl (afterPart s.source) (ofSlots slots, filled)).1 =
      ofSlots (slots ++ s.tupleSlots filled (ns.map (Reading.ofNode s.source))) := by
  induction ns generalizing slots filled with
  | nil => simp [Site.tupleSlots]
  | cons n ns ih =>
    rw [List.foldl_cons, afterPart_ofSlots, List.map_cons, tupleSlots_ofNode]
    split
    · rw [ih, List.append_assoc, List.singleton_append]
    · split
      · rw [ih, List.append_assoc]
      · exact ih slots filled

theorem afterChild_ofSlots (s : Site) (slots : List Slot) (n : Node) :
    afterChild s.source (ofSlots slots) n = ofSlots (slots ++ childSlots s n) := by
  unfold afterChild childSlots
  split
  · exact push_ofSlots slots _
  · split
    · exact foldl_afterPart s n.children slots false
    · rw [List.append_nil]

theorem foldl_afterChild (s : Site) (ns : List Node) (slots : List Slot) :
    ns.foldl (afterChild s.source) (ofSlots slots) = ofSlots (slots ++ ns.flatMap (childSlots s)) := by
  induction ns generalizing slots with
  | nil => simp
  | cons n ns ih => rw [List.foldl_cons, afterChild_ofSlots, ih, List.flatMap_cons, List.append_assoc]

/-- The columns have one entry for every segment, and the entries at an index make the slot of that segment. -/
structure Follow (source : List Char) (segments : List (List Node)) (c : Columns) : Prop where
  names : c.names.length = segments.length
  types : c.types.length = segments.length
  storages : c.storages.length = segments.length
  entry : ∀ (i : Nat) (segment : List Node), segments[i]? = some segment → ∃ slot, SlotOf source segment slot ∧
    c.names[i]? = some slot.name ∧ c.types[i]? = some slot.type ∧ c.storages[i]? = some slot.storage

theorem follow_ofSlots {source : List Char} {segments : List (List Node)} {slots : List Slot}
    (h : List.Forall₂ (SlotOf source) segments slots) : (ofSlots slots).Follow source segments := by
  have hlength : slots.length = segments.length := h.length_eq.symm
  refine ⟨by simpa [ofSlots], by simpa [ofSlots], by simpa [ofSlots], ?_⟩
  intro i segment hsegment
  obtain ⟨hi, rfl⟩ := List.getElem?_eq_some_iff.mp hsegment
  have hslot : i < slots.length := by omega
  have hentry : slots[i]? = some slots[i] := List.getElem?_eq_getElem hslot
  exact ⟨slots[i], h.get hi hslot, by simp [ofSlots, hentry], by simp [ofSlots, hentry], by simp [ofSlots, hentry]⟩

end Columns

/-- What a declaration statement declares, gathered child by child. -/
def columnsOf (source : List Char) (n : Node) : Columns :=
  (n.children.filter (·.head.isPart)).foldl (Columns.afterChild source) ⟨[], [], []⟩

/-- **The columns of a statement are those of its slots.** -/
theorem columnsOf_eq (source : List Char) (n : Node) : columnsOf source n = .ofSlots (siteOf source n).slots := by
  rw [slots_siteOf]
  exact Columns.foldl_afterChild (siteOf source n) _ []

/-! ## The variable that receives a status -/

theorem stmt_siteOf {source : List Char} {n : Node} (h : n.kind = "variable_declaration_statement") :
    (Reading.ofNode source n).stmt =
      .declaration (n.head.pos source) (siteOf source n).slots (((siteOf source n).role? "value").map (·.expr)) := by
  have hstmt : (Reading.ofNode source n).stmt = (siteOf source n).stmt := by
    cases n
    rfl
  rw [hstmt, ← pos_siteOf]
  simp only [Site.stmt, kind_siteOf, h]

theorem boundStatus?_declaration {p q : Text.Position} {slots : List Slot} {value : Option Expr} {name : String} :
    boundStatus? (.declaration p slots value) = some (name, q) ↔
      (∃ slot, slots.head? = some slot ∧ slot.name = some name) ∧ ∃ call kind, value = some call ∧
        call.calledMember? = some (CallKind.label kind) ∧ kind.returnsStatus = true ∧ call.pos = q := by
  simp only [← lowLevel?_eq_some]
  cases value with
  | none => simp [boundStatus?]
  | some call =>
    cases slots with
    | nil => simp [boundStatus?]
    | cons slot slots =>
      simp only [boundStatus?, List.head?_cons, Option.bind_some, Option.bind_eq_some_iff, Option.map_eq_some_iff,
        Option.filter_eq_some_iff]
      constructor
      · rintro ⟨_, ⟨bound, hname, rfl⟩, kind, ⟨hkind, hstatus⟩, hpair⟩
        obtain ⟨rfl, rfl⟩ := Prod.mk.inj hpair
        exact ⟨⟨slot, rfl, hname⟩, call, kind, rfl, hkind, hstatus, rfl⟩
      · rintro ⟨⟨_, hslot, hname⟩, _, kind, hcall, hkind, hstatus, rfl⟩
        obtain rfl := Option.some.inj hslot
        obtain rfl := Option.some.inj hcall
        exact ⟨_, ⟨name, hname, rfl⟩, kind, ⟨hkind, hstatus⟩, rfl⟩

/-- **Tuple declarations keep the positions of their slots.** The three columns of a declaration statement have the same
length. If the statement declares one tuple, they have one entry for every segment of the tuple, which comes from the
declaration of the segment or is empty in all three. So the variable that receives the status of a low-level call is
the one that the first segment declares, and there is none if the first segment declares none. -/
theorem tuple_slots_kept (source : List Char) (n : Node) (hkind : n.kind = "variable_declaration_statement") :
    ∃ slots value, (Reading.ofNode source n).stmt = .declaration (n.head.pos source) slots value ∧
      columnsOf source n = .ofSlots slots ∧
      (columnsOf source n).names.length = (columnsOf source n).types.length ∧
      (columnsOf source n).types.length = (columnsOf source n).storages.length ∧
      ∀ tuple segments, declarators n = [tuple] → IsTuple tuple segments →
        (columnsOf source n).Follow source segments ∧
        ∀ name pos, boundStatus? (Reading.ofNode source n).stmt = some (name, pos) ↔
          (∃ first, segments.head? = some first ∧
            ∃ d ∈ first, declaresSlot d = true ∧ (declaredSlot source d).name = some name) ∧
          ∃ call kind, value = some call ∧ call.calledMember? = some (CallKind.label kind) ∧
            kind.returnsStatus = true ∧ call.pos = pos := by
  have hcolumns := columnsOf_eq source n
  refine ⟨_, _, stmt_siteOf hkind, hcolumns, by simp [hcolumns, Columns.ofSlots], by simp [hcolumns, Columns.ofSlots], ?_⟩
  intro tuple segments hdeclarators htuple
  have hslots := forall₂_slots source hdeclarators htuple
  refine ⟨hcolumns ▸ Columns.follow_ofSlots hslots, ?_⟩
  intro name pos
  rw [stmt_siteOf hkind, boundStatus?_declaration]
  refine and_congr_left fun _ => ?_
  generalize (siteOf source n).slots = slots at hslots
  cases hslots with
  | nil => simp
  | @cons first slot rest slots hfirst _ =>
    have hsegment : IsSegment first := htuple.segment first List.mem_cons_self
    simp [hfirst.name_eq_some_iff hsegment]

/-! ## A status in front of two empty slots -/

def statusSource : String := "(bool ok, /* b */, ) = to.send(1);"

def okDeclaration : Node :=
  cleanNode "variable_declaration" true 1 8 [] [
    cleanNode "type_name" true 1 5 ["type"] [cleanNode "primitive_type" true 1 5 [] []],
    cleanNode "identifier" true 6 8 ["name"] []]

/-- One slot is declared, one holds a comment, and one holds nothing. -/
def statusSegments : List (List Node) := [[okDeclaration], [cleanNode "comment" true 10 17 [] []], []]

def statusTuple : Node :=
  cleanNode "variable_declaration_tuple" true 0 20 [] [
    cleanNode "(" false 0 1 [] [],
    okDeclaration,
    cleanNode "," false 8 9 [] [],
    cleanNode "comment" true 10 17 [] [],
    cleanNode "," false 17 18 [] [],
    cleanNode ")" false 19 20 [] []]

def statusDeclaration : Node :=
  cleanNode "variable_declaration_statement" true 0 34 [] [
    statusTuple,
    cleanNode "=" false 21 22 [] [],
    cleanNode "expression" true 23 33 ["value"] [cleanNode "call_expression" true 23 33 [] [
      cleanNode "expression" true 23 30 ["function"] [cleanNode "member_expression" true 23 30 [] [
        cleanNode "identifier" true 23 25 ["object"] [],
        cleanNode "." false 25 26 [] [],
        cleanNode "identifier" true 26 30 ["property"] []]],
      cleanNode "(" false 30 31 [] [],
      cleanNode "call_argument" true 31 32 [] [cleanNode "expression" true 31 32 [] [
        cleanNode "number_literal" true 31 32 [] []]],
      cleanNode ")" false 32 33 [] []]],
    cleanNode ";" false 33 34 [] []]

theorem isTuple_statusTuple : IsTuple statusTuple statusSegments where
  kind := rfl
  laid := ⟨_, _, rfl, rfl, .next rfl (.next rfl (.last rfl))⟩
  segment := by
    intro segment hsegment
    simp only [statusSegments, List.mem_cons, List.not_mem_nil, or_false] at hsegment
    rcases hsegment with rfl | rfl | rfl <;> exact ⟨by decide, by decide⟩

/-- The status goes to the variable of the first slot, and the columns have an entry for each of the three. -/
theorem tuple_slots_kept_status :
    statusDeclaration.kind = "variable_declaration_statement" ∧ declarators statusDeclaration = [statusTuple] ∧
      IsTuple statusTuple statusSegments ∧
      (columnsOf statusSource.toList statusDeclaration).Follow statusSource.toList statusSegments ∧
      boundStatus? (Reading.ofNode statusSource.toList statusDeclaration).stmt = some ("ok", ⟨1, 23⟩) := by
  have hdeclarators : declarators statusDeclaration = [statusTuple] := rfl
  obtain ⟨slots, value, hstmt, -, -, -, hkept⟩ := tuple_slots_kept statusSource.toList statusDeclaration rfl
  obtain ⟨hfollow, hbound⟩ := hkept statusTuple statusSegments hdeclarators isTuple_statusTuple
  refine ⟨rfl, hdeclarators, isTuple_statusTuple, hfollow, (hbound _ _).mpr ⟨?_, ?_⟩⟩
  · exact ⟨_, rfl, okDeclaration, List.mem_singleton_self _, rfl, by decide +kernel⟩
  · -- the value of the statement is what its last child is read as
    have hvalue := (Stmt.declaration.inj (hstmt.symm.trans (stmt_siteOf rfl))).2.2
    exact ⟨_, .send, hvalue, by decide +kernel, rfl, by decide +kernel⟩

end ContractAudit.Facts
