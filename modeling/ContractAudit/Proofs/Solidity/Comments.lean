import ContractAudit.Proofs.Solidity.Sites
import ContractAudit.Proofs.Tree.Comments
import Mathlib.Data.List.Basic

/-!
# Comments are not read

Nothing that is read off a tree depends on its comments. A node is read by looking at its children in four ways: at
those that carry meaning, at the one with a role, at whether a token is among them, and at the words among them. None of
these looks at a comment (`parts_withoutComments`, `role?_withoutComments`, `hasToken_withoutComments`,
`wordAmong?_withoutComments`), and so all that is built on them stays the same without comments.
-/

namespace ContractAudit.Solidity

open ContractAudit.Tree (Head Node cleanNode)

/-! ## Readings without comments -/

mutual

/-- The same reading with the comments below it taken out. -/
def Reading.withoutComments : Reading → Reading
  | .mk head forms children => .mk head forms (Reading.withoutCommentsIn children)

def Reading.withoutCommentsIn : List Reading → List Reading
  | [] => []
  | r :: rs =>
    if r.head.isComment then Reading.withoutCommentsIn rs
    else r.withoutComments :: Reading.withoutCommentsIn rs

end

namespace Reading

@[simp] theorem head_withoutComments (r : Reading) : r.withoutComments.head = r.head := by
  cases r
  rfl

@[simp] theorem forms_withoutComments (r : Reading) : r.withoutComments.forms = r.forms := by
  cases r
  rfl

@[simp] theorem children_withoutComments (r : Reading) : r.withoutComments.children = withoutCommentsIn r.children := by
  cases r
  rfl

@[simp] theorem kind_withoutComments (r : Reading) : r.withoutComments.kind = r.kind := by
  rw [kind, head_withoutComments, kind]

@[simp] theorem type_withoutComments (r : Reading) : r.withoutComments.type = r.type := by
  rw [type, forms_withoutComments, type]

@[simp] theorem stmt_withoutComments (r : Reading) : r.withoutComments.stmt = r.stmt := by
  rw [stmt, forms_withoutComments, stmt]

@[simp] theorem expr_withoutComments (r : Reading) : r.withoutComments.expr = r.expr := by
  rw [expr, forms_withoutComments, expr]

theorem withoutCommentsIn_eq (rs : List Reading) :
    withoutCommentsIn rs = (rs.filter fun r => !r.head.isComment).map withoutComments := by
  induction rs with
  | nil => rfl
  | cons r rs ih => by_cases h : r.head.isComment = true <;> simp [withoutCommentsIn, h, ih]

theorem kind_of_isComment {r : Reading} (h : r.head.isComment = true) : r.kind = "comment" := eq_of_beq h

theorem find?_withoutCommentsIn {p : Reading → Bool} {rs : List Reading}
    (hcomment : ∀ r ∈ rs, r.head.isComment = true → p r = false) (hsame : ∀ r, p r.withoutComments = p r) :
    (withoutCommentsIn rs).find? p = (rs.find? p).map withoutComments := by
  induction rs with
  | nil => rfl
  | cons r rs ih =>
    have hrest := ih fun t ht => hcomment t (List.mem_cons_of_mem r ht)
    by_cases hr : r.head.isComment = true
    · rw [withoutCommentsIn, if_pos hr, hrest, List.find?_cons, hcomment r List.mem_cons_self hr]
    · rw [withoutCommentsIn, if_neg hr, List.find?_cons, List.find?_cons, hsame, hrest]
      cases p r <;> rfl

theorem findSome?_withoutCommentsIn {α : Type} {f g : Reading → Option α} {rs : List Reading}
    (hcomment : ∀ r ∈ rs, r.head.isComment = true → f r = none) (hsame : ∀ r, g r.withoutComments = f r) :
    (withoutCommentsIn rs).findSome? g = rs.findSome? f := by
  induction rs with
  | nil => rfl
  | cons r rs ih =>
    have hrest := ih fun t ht => hcomment t (List.mem_cons_of_mem r ht)
    by_cases hr : r.head.isComment = true
    · rw [withoutCommentsIn, if_pos hr, hrest, List.findSome?_cons, hcomment r List.mem_cons_self hr]
    · rw [withoutCommentsIn, if_neg hr, List.findSome?_cons, List.findSome?_cons, hsame, hrest]

/-- No comment below a reading has a role. -/
inductive CommentsHaveNoRole : Reading → Prop
  | mk {head : Head} {forms : Forms} {children : List Reading}
      (here : ∀ r ∈ children, r.head.isComment = true → r.head.roles = [])
      (below : ∀ r ∈ children, r.CommentsHaveNoRole) : CommentsHaveNoRole (.mk head forms children)

end Reading

namespace Site

/-- The same site with the comments below it taken out. -/
def withoutComments (s : Site) : Site := ⟨s.source, s.head, Reading.withoutCommentsIn s.children⟩

/-- No comment below a site has a role. -/
structure CommentsHaveNoRole (s : Site) : Prop where
  here : ∀ r ∈ s.children, r.head.isComment = true → r.head.roles = []
  deeper : ∀ r ∈ s.children, r.CommentsHaveNoRole

end Site

theorem Reading.CommentsHaveNoRole.site {r : Reading} (h : r.CommentsHaveNoRole) (source : List Char) :
    (r.site source).CommentsHaveNoRole := by
  cases h with
  | mk here below => exact ⟨here, below⟩

namespace Site

@[simp] theorem kind_withoutComments (s : Site) : s.withoutComments.kind = s.kind := rfl

@[simp] theorem pos_withoutComments (s : Site) : s.withoutComments.pos = s.pos := rfl

@[simp] theorem text_withoutComments (s : Site) : s.withoutComments.text = s.text := rfl

@[simp] theorem textOf_withoutComments (s : Site) (r : Reading) :
    s.withoutComments.textOf r.withoutComments = s.textOf r := by
  rw [textOf, textOf, Reading.head_withoutComments]
  rfl

@[simp] theorem trimmedTextOf_withoutComments (s : Site) (r : Reading) :
    s.withoutComments.trimmedTextOf r.withoutComments = s.trimmedTextOf r := by
  rw [trimmedTextOf, textOf_withoutComments, trimmedTextOf]

@[simp] theorem below_withoutComments (s : Site) (r : Reading) :
    s.withoutComments.below r.withoutComments = (s.below r).withoutComments := by
  rw [below, Reading.site, Reading.head_withoutComments, Reading.children_withoutComments]
  rfl

/-! ## The four ways to look at the children -/

@[simp] theorem parts_withoutComments (s : Site) :
    s.withoutComments.parts = s.parts.map Reading.withoutComments := by
  have hpart : ∀ r : Reading, (r.head.isPart && !r.head.isComment) = r.head.isPart := fun r => by simp [Head.isPart]
  simp only [parts, withoutComments, Reading.withoutCommentsIn_eq, List.filter_map, List.filter_filter,
    Function.comp_def, Reading.head_withoutComments, hpart]

@[simp] theorem partsOfKind_withoutComments (s : Site) (kind : String) :
    s.withoutComments.partsOfKind kind = (s.partsOfKind kind).map Reading.withoutComments := by
  simp only [partsOfKind, parts_withoutComments, List.filter_map, Function.comp_def, Reading.kind_withoutComments]

theorem role?_withoutComments {s : Site} (h : s.CommentsHaveNoRole) (role : String) :
    s.withoutComments.role? role = (s.role? role).map Reading.withoutComments := by
  refine Reading.find?_withoutCommentsIn (fun r hr hcomment => ?_) fun r => by rw [Reading.head_withoutComments]
  rw [h.here r hr hcomment]
  rfl

theorem roleText?_withoutComments {s : Site} (h : s.CommentsHaveNoRole) (role : String) :
    s.withoutComments.roleText? role = s.roleText? role := by
  simp only [roleText?, role?_withoutComments h, Option.map_map, Function.comp_def, trimmedTextOf_withoutComments]

theorem hasToken_withoutComments (s : Site) {kind : String} (hkind : kind ≠ "comment") :
    s.withoutComments.hasToken kind = s.hasToken kind := by
  have hcomment : ∀ r : Reading, (!r.head.isComment && r.kind == kind) = (r.kind == kind) := by
    intro r
    by_cases hr : r.kind = kind
    · simp_all [Head.isComment, Reading.kind]
    · simp [hr]
  simp only [hasToken, withoutComments, Reading.withoutCommentsIn_eq, List.any_map, List.any_filter, Function.comp_def,
    Reading.kind_withoutComments, hcomment]

theorem wordAmong?_withoutComments (s : Site) {wrapper : String} {words : List String} (hwrapper : wrapper ≠ "comment")
    (hwords : "comment" ∉ words) : s.withoutComments.wordAmong? wrapper words = s.wordAmong? wrapper words := by
  refine Reading.findSome?_withoutCommentsIn (fun r _ hr => ?_) fun r => ?_
  · simp [Reading.kind_of_isComment hr, hwrapper.symm, hwords]
  · simp only [Reading.kind_withoutComments, trimmedTextOf_withoutComments]

/-! ## Types, statements and expressions -/

theorem CommentsHaveNoRole.below {s : Site} (h : s.CommentsHaveNoRole) {r : Reading} (hr : r ∈ s.children) :
    (s.below r).CommentsHaveNoRole :=
  (h.deeper r hr).site s.source

theorem type_withoutComments {s : Site} (h : s.CommentsHaveNoRole) : s.withoutComments.type = s.type := by
  unfold type
  simp only [kind_withoutComments, text_withoutComments, role?_withoutComments h, parts_withoutComments, List.head?_map,
    hasToken_withoutComments s (show "[" ≠ "comment" by decide)]
  split
  · rfl
  · rfl
  · cases s.role? "key_type" with
    | some key => simp [Function.comp_def]
    | none => cases s.parts.head? <;> simp
  · rfl
  · rfl

theorem carried_withoutComments (s : Site) : s.withoutComments.carried = s.carried := by
  simp only [carried, pos_withoutComments, kind_withoutComments, parts_withoutComments, List.filter_map, List.map_map,
    Function.comp_def, Reading.kind_withoutComments, Reading.stmt_withoutComments, Reading.expr_withoutComments]

theorem block_withoutComments (s : Site) : s.withoutComments.block = s.block := by
  simp only [block, pos_withoutComments, parts_withoutComments, List.map_map, Function.comp_def,
    Reading.stmt_withoutComments]

theorem arguments_withoutComments (s : Site) : s.withoutComments.arguments = s.arguments := by
  unfold arguments
  rw [partsOfKind_withoutComments, List.map_map]
  refine List.map_congr_left fun r _ => ?_
  simp only [Function.comp_apply, below_withoutComments, parts_withoutComments, carried_withoutComments]
  rcases (s.below r).parts with _ | ⟨single, _ | ⟨second, rest⟩⟩ <;> simp

theorem slot_withoutComments {s : Site} (h : s.CommentsHaveNoRole) : s.withoutComments.slot = s.slot := by
  simp only [slot, roleText?_withoutComments h, role?_withoutComments h, Option.map_map, Function.comp_def,
    Reading.type_withoutComments, wordAmong?_withoutComments s (show "" ≠ "comment" by decide)
      (show "comment" ∉ ["memory", "storage", "calldata"] by decide)]

theorem tupleSlots_comment (s : Site) {r : Reading} (hr : r.head.isComment = true) (filled : Bool) (rs : List Reading) :
    s.tupleSlots filled (r :: rs) = s.tupleSlots filled rs := by
  rw [tupleSlots, Reading.kind_of_isComment hr]
  rfl

theorem slot_below_withoutComments (s : Site) {r : Reading} (h : r.CommentsHaveNoRole) :
    (s.below r).withoutComments.slot = (s.below r).slot :=
  slot_withoutComments (h.site s.source)

theorem tupleSlots_withoutCommentsIn (s : Site) {rs : List Reading} (h : ∀ r ∈ rs, r.CommentsHaveNoRole)
    (filled : Bool) : s.withoutComments.tupleSlots filled (Reading.withoutCommentsIn rs) = s.tupleSlots filled rs := by
  induction rs generalizing filled with
  | nil => rfl
  | cons r rs ih =>
    have hrest := ih fun t ht => h t (List.mem_cons_of_mem r ht)
    have hslot := s.slot_below_withoutComments (h r List.mem_cons_self)
    by_cases hr : r.head.isComment = true
    · rw [Reading.withoutCommentsIn, if_pos hr, hrest, tupleSlots_comment s hr]
    · rw [Reading.withoutCommentsIn, if_neg hr]
      simp only [tupleSlots, Reading.kind_withoutComments, below_withoutComments, textOf_withoutComments, hslot, hrest]

theorem slots_withoutComments {s : Site} (h : s.CommentsHaveNoRole) : s.withoutComments.slots = s.slots := by
  unfold slots
  rw [parts_withoutComments, List.flatMap_map]
  refine List.flatMap_congr fun r hr => ?_
  have hreading := h.deeper r (mem_children_of_mem_parts hr)
  have hslot := s.slot_below_withoutComments hreading
  have htuple : s.withoutComments.tupleSlots false (Reading.withoutCommentsIn r.children) =
      s.tupleSlots false r.children := s.tupleSlots_withoutCommentsIn (hreading.site s.source).deeper false
  simp only [Reading.kind_withoutComments, below_withoutComments, Reading.children_withoutComments, hslot, htuple]

theorem loopTest?_withoutComments {s : Site} (h : s.CommentsHaveNoRole) :
    s.withoutComments.loopTest? = s.loopTest? := by
  unfold loopTest?
  rw [role?_withoutComments h]
  cases s.role? "condition" <;> simp [Function.comp_def]

theorem stmt_withoutComments {s : Site} (h : s.CommentsHaveNoRole) : s.withoutComments.stmt = s.stmt := by
  unfold stmt
  simp only [kind_withoutComments, pos_withoutComments, parts_withoutComments, partsOfKind_withoutComments,
    role?_withoutComments h, carried_withoutComments, block_withoutComments, arguments_withoutComments,
    slots_withoutComments h, loopTest?_withoutComments h, List.head?_map, List.map_map, Option.map_map,
    Option.filter_map, Function.comp_def, below_withoutComments, Reading.head_withoutComments,
    Reading.stmt_withoutComments, Reading.expr_withoutComments]
  -- only the statements that need a child with a role ask whether there is one
  split <;> try rfl
  · cases s.role? "condition" <;> cases s.role? "body" <;> simp
  · cases s.role? "condition" <;> cases s.role? "body" <;> simp
  · cases s.role? "condition" <;> cases s.role? "body" <;> simp
  · cases s.role? "name" <;> simp

theorem operatorOf_withoutComments {s : Site} (h : s.CommentsHaveNoRole) (left right : Reading) :
    s.withoutComments.operatorOf left.withoutComments right.withoutComments = s.operatorOf left right := by
  rw [operatorOf, roleText?_withoutComments h, Reading.head_withoutComments, Reading.head_withoutComments]
  rfl

theorem conversion_withoutComments (s : Site) : s.withoutComments.conversion = s.conversion := by
  unfold conversion
  simp only [pos_withoutComments, parts_withoutComments, List.head?_map, List.filter_map, List.map_map,
    Function.comp_def, Reading.kind_withoutComments, Reading.expr_withoutComments]
  cases s.parts.head? <;> simp

theorem expr_withoutComments {s : Site} (h : s.CommentsHaveNoRole) : s.withoutComments.expr = s.expr := by
  unfold expr
  simp only [kind_withoutComments, pos_withoutComments, text_withoutComments, parts_withoutComments,
    role?_withoutComments h, roleText?_withoutComments h, carried_withoutComments, arguments_withoutComments,
    conversion_withoutComments, List.head?_map, List.map_map, Option.map_map, Function.comp_def,
    Reading.expr_withoutComments]
  split <;> try rfl
  -- a wrapper around a single expression
  case h_1 | h_2 | h_3 => rcases s.parts with _ | ⟨single, _ | ⟨second, rest⟩⟩ <;> simp
  -- an expression with operands in roles
  case h_7 => cases s.role? "object" <;> cases s.roleText? "property" <;> simp
  case h_8 => cases s.role? "function" <;> simp
  case h_11 | h_12 => cases s.role? "base" <;> simp
  case h_13 | h_14 | h_15 =>
    cases s.role? "left" <;> cases s.role? "right" <;> simp [operatorOf_withoutComments h]
  case h_16 | h_17 => cases s.role? "argument" <;> cases s.parts.head? <;> simp
  -- an expression with exactly three operands
  case h_18 => rcases s.parts with _ | ⟨test, _ | ⟨yes, _ | ⟨no, _ | ⟨fourth, rest⟩⟩⟩⟩ <;> simp

theorem options_withoutComments {s : Site} (h : s.CommentsHaveNoRole) : s.withoutComments.options = s.options := by
  unfold options
  rw [partsOfKind_withoutComments, List.filterMap_map]
  refine List.filterMap_congr fun r hr => ?_
  have hbelow := h.below (mem_children_of_mem_partsOfKind hr)
  simp only [Function.comp_apply, below_withoutComments, role?_withoutComments hbelow, parts_withoutComments,
    List.getLast?_map]
  cases (s.below r).role? "value" <;> cases (s.below r).parts.getLast? <;> simp

theorem callee_withoutComments {s : Site} (h : s.CommentsHaveNoRole) : s.withoutComments.callee = s.callee := by
  unfold callee
  simp only [kind_withoutComments, parts_withoutComments, role?_withoutComments h, expr_withoutComments h,
    options_withoutComments h, List.head?_map]
  split
  · rcases s.parts with _ | ⟨single, _ | ⟨second, rest⟩⟩ <;> simp
  · cases s.role? "type" <;> cases s.parts.head? <;> simp
  · rfl

theorem forms_withoutComments {s : Site} (h : s.CommentsHaveNoRole) : s.withoutComments.forms = s.forms := by
  rw [forms, type_withoutComments h, stmt_withoutComments h, expr_withoutComments h, callee_withoutComments h, forms]

/-! ## Declarations -/

theorem parameters_withoutComments {s : Site} (h : s.CommentsHaveNoRole) :
    s.withoutComments.parameters = s.parameters := by
  unfold parameters
  rw [parts_withoutComments, List.flatMap_map]
  refine List.flatMap_congr fun r hr => ?_
  have hreading := h.deeper r (mem_children_of_mem_parts hr)
  have hlist : ((s.below r).withoutComments.partsOfKind "parameter").map (fun p => (s.withoutComments.below p).slot) =
      ((s.below r).partsOfKind "parameter").map fun p => (s.below p).slot := by
    rw [partsOfKind_withoutComments, List.map_map]
    refine List.map_congr_left fun p hp => ?_
    have hp := (h.below (mem_children_of_mem_parts hr)).deeper p (mem_children_of_mem_partsOfKind hp)
    rw [Function.comp_apply, below_withoutComments, slot_below_withoutComments s hp]
  simp only [Reading.kind_withoutComments, below_withoutComments, slot_below_withoutComments s hreading, hlist]

theorem body?_withoutComments {s : Site} (h : s.CommentsHaveNoRole) : s.withoutComments.body? = s.body? := by
  unfold body?
  rw [role?_withoutComments h, partsOfKind_withoutComments, List.head?_map]
  cases s.role? "body" <;> cases (s.partsOfKind "function_body").head? <;> simp [block_withoutComments]

theorem visibility?_withoutComments (s : Site) : s.withoutComments.visibility? = s.visibility? :=
  s.wordAmong?_withoutComments (by decide) (by decide)

theorem mutability?_withoutComments (s : Site) : s.withoutComments.mutability? = s.mutability? :=
  s.wordAmong?_withoutComments (by decide) (by decide)

theorem functionKind_withoutComments (s : Site) : s.withoutComments.functionKind = s.functionKind := by
  unfold functionKind
  rw [kind_withoutComments, hasToken_withoutComments s (by decide)]

theorem invokedModifiers_withoutComments (s : Site) : s.withoutComments.invokedModifiers = s.invokedModifiers := by
  unfold invokedModifiers
  rw [partsOfKind_withoutComments, List.filterMap_map]
  refine List.filterMap_congr fun r _ => ?_
  simp only [Function.comp_apply, below_withoutComments, partsOfKind_withoutComments, List.map_map, Function.comp_def,
    textOf_withoutComments]

theorem function_withoutComments {s : Site} (h : s.CommentsHaveNoRole) : s.withoutComments.function = s.function := by
  have hreturns : ((s.withoutComments.partsOfKind "return_type_definition").head?.map fun r =>
      (s.withoutComments.below r).parameters) =
      (s.partsOfKind "return_type_definition").head?.map fun r => (s.below r).parameters := by
    rw [partsOfKind_withoutComments, List.head?_map]
    cases hr : (s.partsOfKind "return_type_definition").head? with
    | none => rfl
    | some r =>
      have hbelow := h.below (mem_children_of_mem_partsOfKind (List.mem_of_head? hr))
      simp [parameters_withoutComments hbelow]
  simp only [function, functionKind_withoutComments, roleText?_withoutComments h, visibility?_withoutComments,
    mutability?_withoutComments, invokedModifiers_withoutComments, parameters_withoutComments h, hreturns,
    body?_withoutComments h, pos_withoutComments]

theorem stateVariable_withoutComments {s : Site} (h : s.CommentsHaveNoRole) :
    s.withoutComments.stateVariable = s.stateVariable := by
  simp only [stateVariable, roleText?_withoutComments h, role?_withoutComments h, Option.map_map, Function.comp_def,
    Reading.type_withoutComments, Reading.expr_withoutComments, visibility?_withoutComments, pos_withoutComments,
    hasToken_withoutComments s (show "constant" ≠ "comment" by decide),
    hasToken_withoutComments s (show "immutable" ≠ "comment" by decide)]

theorem member_withoutComments {s : Site} (h : s.CommentsHaveNoRole) : s.withoutComments.member = s.member := by
  have hevent : ((s.withoutComments.partsOfKind "event_parameter").map fun r => (s.withoutComments.below r).slot) =
      (s.partsOfKind "event_parameter").map fun r => (s.below r).slot := by
    rw [partsOfKind_withoutComments, List.map_map]
    refine List.map_congr_left fun r hr => ?_
    rw [Function.comp_apply, below_withoutComments,
      slot_below_withoutComments s (h.deeper r (mem_children_of_mem_partsOfKind hr))]
  simp only [member, kind_withoutComments, pos_withoutComments, function_withoutComments h,
    stateVariable_withoutComments h, roleText?_withoutComments h, hevent, parameters_withoutComments h,
    body?_withoutComments h, carried_withoutComments]

theorem contractKind_withoutComments (s : Site) : s.withoutComments.contractKind = s.contractKind := by
  unfold contractKind
  rw [kind_withoutComments, hasToken_withoutComments s (by decide)]

theorem bases_withoutComments {s : Site} (h : s.CommentsHaveNoRole) : s.withoutComments.bases = s.bases := by
  unfold bases
  rw [partsOfKind_withoutComments, List.filterMap_map]
  refine List.filterMap_congr fun r hr => ?_
  have hbelow := h.below (mem_children_of_mem_partsOfKind hr)
  simp only [Function.comp_apply, below_withoutComments, role?_withoutComments hbelow, parts_withoutComments,
    List.head?_map]
  cases (s.below r).role? "ancestor" <;> cases (s.below r).parts.head? <;> simp

theorem contract_withoutComments {s : Site} (h : s.CommentsHaveNoRole) : s.withoutComments.contract = s.contract := by
  have hmembers : ((s.withoutComments.role? "body").map fun r =>
      (s.withoutComments.below r).parts.map fun m => (s.withoutComments.below m).member) =
      (s.role? "body").map fun r => (s.below r).parts.map fun m => (s.below m).member := by
    rw [role?_withoutComments h]
    cases hbody : s.role? "body" with
    | none => rfl
    | some r =>
      have hbelow := h.below (mem_children_of_role? hbody)
      simp only [Option.map_some, below_withoutComments, parts_withoutComments, List.map_map]
      congr 1
      refine List.map_congr_left fun m hm => ?_
      have hmember := hbelow.below (mem_children_of_mem_parts hm)
      rw [Function.comp_apply, below_withoutComments]
      exact member_withoutComments hmember
  simp only [contract, contractKind_withoutComments, roleText?_withoutComments h, bases_withoutComments h, hmembers,
    pos_withoutComments]
  rfl

theorem pragma_withoutComments (s : Site) : s.withoutComments.pragma = s.pragma := by
  simp only [pragma, text_withoutComments, pos_withoutComments]

theorem item_withoutComments {s : Site} (h : s.CommentsHaveNoRole) : s.withoutComments.item = s.item := by
  simp only [item, kind_withoutComments, pragma_withoutComments, contract_withoutComments h, carried_withoutComments]

end Site

/-! ## Trees -/

mutual

theorem Reading.commentsHaveNoRole_ofNode (source : List Char) : (n : Node) →
    (∀ m ∈ n.nodes, m.head.isComment = true → m.head.roles = []) → (Reading.ofNode source n).CommentsHaveNoRole
  | .mk head children, h => by
    have hbelow := Reading.commentsHaveNoRole_ofNodes source children fun m hm =>
      h m (Node.mem_nodes_of_mem_nodesIn hm)
    exact .mk (fun r hr => (hbelow r hr).1) fun r hr => (hbelow r hr).2

theorem Reading.commentsHaveNoRole_ofNodes (source : List Char) : (ns : List Node) →
    (∀ m ∈ Tree.nodesIn ns, m.head.isComment = true → m.head.roles = []) →
      ∀ r ∈ Reading.ofNodes source ns, (r.head.isComment = true → r.head.roles = []) ∧ r.CommentsHaveNoRole
  | [], _ => by simp [Reading.ofNodes]
  | n :: ns, h => by
    have hfirst := Reading.commentsHaveNoRole_ofNode source n fun m hm => h m (List.mem_append_left _ hm)
    have hrest := Reading.commentsHaveNoRole_ofNodes source ns fun m hm => h m (List.mem_append_right _ hm)
    have hself := h n (List.mem_append_left _ n.mem_nodes_self)
    rw [Reading.ofNodes]
    refine List.forall_mem_cons.mpr ⟨⟨?_, hfirst⟩, hrest⟩
    cases n
    exact hself

end

mutual

theorem Reading.ofNode_withoutComments (source : List Char) : (n : Node) →
    (∀ m ∈ n.nodes, m.head.isComment = true → m.head.roles = []) →
      Reading.ofNode source n.withoutComments = (Reading.ofNode source n).withoutComments
  | .mk head children, h => by
    have hchildren := fun m hm => h m (Node.mem_nodes_of_mem_nodesIn hm)
    have hread := Reading.ofNodes_withoutCommentsIn source children hchildren
    have hroles := Reading.commentsHaveNoRole_ofNodes source children hchildren
    have hsite : Site.CommentsHaveNoRole ⟨source, head, Reading.ofNodes source children⟩ :=
      ⟨fun r hr => (hroles r hr).1, fun r hr => (hroles r hr).2⟩
    have hforms := Site.forms_withoutComments hsite
    simp only [Site.withoutComments] at hforms
    simp only [Node.withoutComments, Reading.ofNode, Reading.withoutComments, hread, hforms]

theorem Reading.ofNodes_withoutCommentsIn (source : List Char) : (ns : List Node) →
    (∀ m ∈ Tree.nodesIn ns, m.head.isComment = true → m.head.roles = []) →
      Reading.ofNodes source (Tree.withoutCommentsIn ns) = Reading.withoutCommentsIn (Reading.ofNodes source ns)
  | [], _ => rfl
  | n :: ns, h => by
    have hfirst := Reading.ofNode_withoutComments source n fun m hm => h m (List.mem_append_left _ hm)
    have hrest := Reading.ofNodes_withoutCommentsIn source ns fun m hm => h m (List.mem_append_right _ hm)
    by_cases hcomment : n.head.isComment = true
    · simp [Tree.withoutCommentsIn, Reading.ofNodes, Reading.withoutCommentsIn, Reading.head_ofNode, hcomment, hrest]
    · simp [Tree.withoutCommentsIn, Reading.ofNodes, Reading.withoutCommentsIn, Reading.head_ofNode, hcomment, hrest,
        hfirst]

end

theorem SourceUnit.ofReading_withoutComments (source : List Char) {root : Node} (h : root.CommentsHaveNoRole) :
    SourceUnit.ofReading source (Reading.ofNode source root.withoutComments) =
      SourceUnit.ofReading source (Reading.ofNode source root) := by
  have hsite := (Reading.commentsHaveNoRole_ofNode source root h).site source
  have hbare : ((Reading.ofNode source root).withoutComments.site source) =
      ((Reading.ofNode source root).site source).withoutComments := by
    simp only [Reading.site, Site.withoutComments, Reading.head_withoutComments, Reading.children_withoutComments]
  rw [Reading.ofNode_withoutComments source root h, SourceUnit.ofReading, hbare, Site.parts_withoutComments,
    List.map_map, SourceUnit.ofReading]
  congr 1
  refine List.map_congr_left fun r hr => ?_
  have hitem := Site.item_withoutComments ((hsite.deeper r (Site.mem_children_of_mem_parts hr)).site source)
  rw [Function.comp_apply, ← hitem]
  simp only [Reading.site, Site.withoutComments, Reading.head_withoutComments, Reading.children_withoutComments]

/-- **Comments never influence what is read.** If no role refers to a comment and no comment is an error or a missing
token, a tree and the tree without its comments are both refused, or both give the same source unit. They are refused
with the same line if nothing below a comment is an error or a missing token, which is so of comments that are tokens:
then the two results are equal. -/
theorem comments_never_matter (source : List Char) (root : Node) (hroles : root.CommentsHaveNoRole)
    (hsound : root.CommentsAreSound) :
    (∀ unit, SourceUnit.ofTree source root.withoutComments = .ok unit ↔ SourceUnit.ofTree source root = .ok unit) ∧
    (root.CommentsHideNoError → SourceUnit.ofTree source root.withoutComments = SourceUnit.ofTree source root) := by
  have hunit := SourceUnit.ofReading_withoutComments source hroles
  simp only [SourceUnit.ofTree, hunit, Node.head_withoutComments]
  constructor
  · intro unit
    split <;> simp
  · intro hhides
    rw [Node.firstError?_withoutComments root fun m hm => Node.firstError?_comment hsound hhides hm]

/-! ## A comment among three operands -/

/-- A choice with a comment behind its first operand. -/
def choiceSource : String := "contract A \x7b uint x = a /* or */ ? b : c; \x7d"

/-- The tree of that source, with some comments in the place of its comment. -/
def choiceTree (comments : List Node) : Node :=
  cleanNode "source_file" true 0 43 [] [cleanNode "contract_declaration" true 0 43 [] [
    cleanNode "contract" false 0 8 [] [],
    cleanNode "identifier" true 9 10 ["name"] [],
    cleanNode "contract_body" true 11 43 ["body"] [
      cleanNode "\x7b" false 11 12 [] [],
      cleanNode "state_variable_declaration" true 13 41 [] [
        cleanNode "type_name" true 13 17 ["type"] [cleanNode "primitive_type" true 13 17 [] []],
        cleanNode "identifier" true 18 19 ["name"] [],
        cleanNode "=" false 20 21 [] [],
        cleanNode "expression" true 22 40 ["value"] [cleanNode "ternary_expression" true 22 40 [] (
          [cleanNode "identifier" true 22 23 [] []] ++ comments ++
          [cleanNode "?" false 33 34 [] [], cleanNode "identifier" true 35 36 [] [],
            cleanNode ":" false 37 38 [] [], cleanNode "identifier" true 39 40 [] []])],
        cleanNode ";" false 40 41 [] []],
      cleanNode "\x7d" false 42 43 [] []]]]

def choiceComment : Node := cleanNode "comment" true 24 32 [] []

/-- With the comment the choice has four named children, and it is read all the same. -/
theorem comments_never_matter_choice :
    (choiceTree [choiceComment]).CommentsHaveNoRole ∧ (choiceTree [choiceComment]).CommentsAreSound ∧
      (choiceTree [choiceComment]).withoutComments = choiceTree [] ∧
      SourceUnit.ofTree choiceSource.toList (choiceTree []) =
        SourceUnit.ofTree choiceSource.toList (choiceTree [choiceComment]) := by
  have hroles : (choiceTree [choiceComment]).CommentsHaveNoRole := by decide
  have hsound : (choiceTree [choiceComment]).CommentsAreSound := by decide
  have hbare : (choiceTree [choiceComment]).withoutComments = choiceTree [] := rfl
  have hequal := (comments_never_matter choiceSource.toList _ hroles hsound).2 (by decide)
  rw [hbare] at hequal
  exact ⟨hroles, hsound, hbare, hequal⟩

end ContractAudit.Solidity
