import ContractAudit.Json.Decode
import ContractAudit.Proofs.Json.RoundTrip

/-!
# Decoding what was read

Decoders on the values that the reader gives back (`reread`). A record whose names are distinct gets the values that
were written for its fields, and none for those that were left out (`record?_present`). A floating-point number comes
back if its text alone does, and what was no finite number comes back as nothing (`decodeDouble_reread`,
`decodeSingle_reread`).
-/

namespace ContractAudit.Json

open Numeric (Binary)

/-! ## Lists and options -/

theorem enter?_of_lt {bound : Nat} (h : 1 < bound) : enter? bound = some (bound - 1) := if_neg (by omega)

theorem decodeList_reread {α : Type} {item : Decoder α} {form : α → Json} {p : α → Bool} {as : List α} {bound : Nat}
    (hbound : 1 < bound) (hitem : ∀ a ∈ as, item (bound - 1) (form a).reread = if p a then some a else none) :
    decodeList item bound (array (as.map form)).reread = if as.all p then some as else none := by
  have hitems := mapM_ite hitem
  rw [List.map_id'] at hitems
  rw [reread_array, decodeList, enter?_of_lt hbound, Option.bind_some, List.mapM_map, List.mapM_map]
  exact hitems

theorem decodeList_restored {α : Type} {item : Decoder α} {form : α → Json} {as : List α} {bound : Nat}
    (hbound : 1 < bound) (hitem : ∀ a ∈ as, item (bound - 1) (form a).reread = some a) :
    decodeList item bound (array (as.map form)).reread = some as := by
  rw [decodeList_reread (p := fun _ => true) hbound hitem]
  simp

theorem decodeMap_reread {α : Type} {item : Decoder α} {form : α → Json} {fields : List (String × α)} {bound : Nat}
    (hbound : 1 < bound) (hitem : ∀ f ∈ fields, item (bound - 1) (form f.2).reread = some f.2) :
    decodeMap item bound (object (fields.map fun (name, a) => (name, form a))).reread = some fields := by
  have hfields : fields.mapM (fun f => (item (bound - 1) (form f.2).reread).map (f.1, ·)) = some fields := by
    simpa using mapM_eq_some fun f hf => congrArg (Option.map (f.1, ·)) (hitem f hf)
  rw [reread_object, decodeMap, enter?_of_lt hbound, Option.bind_some, List.mapM_map, List.mapM_map]
  exact hfields

@[simp] theorem decodeString_reread (bound : Nat) (s : String) : decodeString bound (string s).reread = some s := rfl

theorem decodeNat_reread {n : Nat} (h : n ≤ Numeric.maxU64) (bound : Nat) :
    decodeNat bound (nat n).reread = some n := by
  rw [reread_nat h]
  simp [decodeNat, nat, h]

@[simp] theorem decodeOption_text? (bound : Nat) (s : Option String) :
    decodeOption decodeString bound (text? s).reread = some s := by
  cases s <;> rfl

@[simp] theorem decodeOption_string (bound : Nat) (s : String) :
    decodeOption decodeString bound (string s).reread = some (some s) := rfl

/-! ## Records -/

/-- The fields of the entries that have a value. -/
def present (entries : List (String × Option Json)) : List (String × Json) :=
  entries.filterMap fun (name, value) => value.map (name, ·)

theorem filter_present_of_not_mem {name : String} {entries : List (String × Option Json)}
    (h : name ∉ entries.map Prod.fst) : (present entries).filter (fun f => f.1 == name) = [] := by
  rw [List.filter_eq_nil_iff]
  intro f hf hname
  obtain ⟨e, he, hvalue⟩ := List.mem_filterMap.mp hf
  obtain ⟨j, -, rfl⟩ := Option.map_eq_some_iff.mp hvalue
  exact h (List.mem_map.mpr ⟨e, he, eq_of_beq hname⟩)

theorem fieldOf?_present {entries : List (String × Option Json)} (hnames : (entries.map Prod.fst).Nodup)
    {e : String × Option Json} (he : e ∈ entries) : fieldOf? (present entries) e.1 = some e.2 := by
  have hfilter : (present entries).filter (fun f => f.1 == e.1) = (e.2.map (e.1, ·)).toList := by
    induction entries with
    | nil => cases he
    | cons d entries ih =>
      rw [List.map_cons, List.nodup_cons] at hnames
      obtain rfl | hmem := List.mem_cons.mp he
      · have hrest := filter_present_of_not_mem hnames.1
        unfold present at hrest ⊢
        cases hvalue : e.2 <;> simp [hvalue, hrest]
      · have hne : d.1 ≠ e.1 := fun h => hnames.1 (h ▸ List.mem_map_of_mem hmem)
        have hrest := ih hnames.2 hmem
        unfold present at hrest ⊢
        cases hvalue : d.2 <;> simp [hvalue, hne, hrest]
  rw [fieldOf?, hfilter]
  cases e.2 <;> rfl

theorem reread_present (entries : List (String × Option Json)) :
    (object (present entries)).reread = object (present (entries.map fun e => (e.1, e.2.map reread))) := by
  rw [reread_object, present, present, List.map_filterMap, List.filterMap_map]
  congr 2
  funext e
  simp [Option.map_map, Function.comp_def]

/-- **A record gets what was written for its fields.** -/
theorem record?_present (entries : List (String × Option Json)) (hnames : (entries.map Prod.fst).Nodup) {bound : Nat}
    (hbound : 1 < bound) : record? (entries.map Prod.fst) bound (object (present entries)).reread =
      some ⟨entries.map fun e => e.2.map reread, false, bound - 1⟩ := by
  have hrestored : ((entries.map fun e => (e.1, e.2.map reread)).map Prod.fst).Nodup := by
    rwa [List.map_map]
  have hfields : entries.mapM (fieldOf? (present (entries.map fun e => (e.1, e.2.map reread))) ∘ Prod.fst) =
      some (entries.map fun e => e.2.map reread) :=
    mapM_eq_some fun e he => fieldOf?_present hrestored (List.mem_map_of_mem he)
  rw [reread_present, record?, enter?_of_lt hbound, Option.bind_some, List.mapM_map, hfields, Option.map_some]

theorem record?_fields (fields : List (String × Json)) (hnames : (fields.map Prod.fst).Nodup) {bound : Nat}
    (hbound : 1 < bound) : record? (fields.map Prod.fst) bound (object fields).reread =
      some ⟨fields.map fun f => some f.2.reread, false, bound - 1⟩ := by
  have hpresent : present (fields.map fun f => (f.1, some f.2)) = fields := by
    simp [present]
  have hnodup : ((fields.map fun f => (f.1, some f.2)).map Prod.fst).Nodup := by rwa [List.map_map]
  have hrecord := record?_present (fields.map fun f => (f.1, some f.2)) hnodup hbound
  rw [hpresent] at hrecord
  simpa [Function.comp_def] using hrecord

namespace Record

variable {α : Type} (values : List (Option Json)) (positional : Bool) (bound i : Nat) (item : Decoder α)

@[simp] theorem required?_mk : required? ⟨values, positional, bound⟩ i item = (values[i]?.join).bind (item bound) := rfl

@[simp] theorem withDefault?_mk (fallback : α) : withDefault? ⟨values, positional, bound⟩ i item fallback =
    (values[i]?.join.map (item bound)).getD (some fallback) := by
  rw [withDefault?, value?]
  cases values[i]?.join <;> rfl

@[simp] theorem nullable?_mk : nullable? ⟨values, false, bound⟩ i item =
    (values[i]?.join.map (decodeOption item bound)).getD (some none) := by
  rw [nullable?, value?]
  cases values[i]?.join <;> rfl

end Record

/-! ## Floating-point numbers -/

/-- The text of a number alone is read and decoded as the number. -/
def Recovers (decode : Decoder Binary) (form : Binary → Number) (x : Binary) : Prop :=
  (read? (number (form x)).pretty).bind (decode strictBound) = some x

instance (decode : Decoder Binary) (form : Binary → Number) (x : Binary) : Decidable (Recovers decode form x) :=
  inferInstanceAs (Decidable (_ = some x))

section Floats

variable {decode : Decoder Binary} {form : Binary → Number} {f : Numeric.Format} {x : Binary}

theorem readable_float (hprint : printNumber (form x) = printFloat f x)
    (h : x.isFinite = true → Recovers decode form x) : (number (form x)).Readable := by
  refine .number ?_
  cases hx : x.isFinite with
  | false => rw [read?_of_printNumber_null (hprint.trans (printFloat_of_not_finite hx))]; rfl
  | true =>
    obtain ⟨j, hread, -⟩ := Option.bind_eq_some_iff.mp (h hx)
    rw [hread]
    rfl

theorem decode_reread_float (hprint : printNumber (form x) = printFloat f x) {bound : Nat}
    (hnull : decode bound null = none) (hbound : ∀ j, decode bound j = decode strictBound j)
    (h : x.isFinite = true → Recovers decode form x) :
    decode bound (number (form x)).reread = if x.isFinite then some x else none := by
  rw [reread]
  cases hx : x.isFinite with
  | false =>
    rw [read?_of_printNumber_null (hprint.trans (printFloat_of_not_finite hx)), Option.getD_some, hnull]
    rfl
  | true =>
    obtain ⟨j, hread, hdecode⟩ := Option.bind_eq_some_iff.mp (h hx)
    rw [hread, Option.getD_some, hbound, hdecode]
    rfl

theorem decodeDouble_reread (h : x.isFinite = true → Recovers decodeDouble .double x) (bound : Nat) :
    decodeDouble bound (number (.double x)).reread = if x.isFinite then some x else none :=
  decode_reread_float rfl rfl (fun j => by cases j with | number n => cases n <;> rfl | _ => rfl) h

theorem decodeSingle_reread (h : x.isFinite = true → Recovers decodeSingle .single x) (bound : Nat) :
    decodeSingle bound (number (.single x)).reread = if x.isFinite then some x else none :=
  decode_reread_float rfl rfl (fun j => by cases j with | number n => cases n <;> rfl | _ => rfl) h

theorem readable_double (h : x.isFinite = true → Recovers decodeDouble .double x) : (number (.double x)).Readable :=
  readable_float rfl h

theorem readable_single (h : x.isFinite = true → Recovers decodeSingle .single x) : (number (.single x)).Readable :=
  readable_float rfl h

end Floats

end ContractAudit.Json
