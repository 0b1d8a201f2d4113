/-!
# Values

The values that settings files and messages hold: the absent value, truth values, whole
numbers, decimal numbers, points in time, texts, lists, and tables whose entries keep
the order they were written in.
-/

namespace SourceAudit

/-- A number written with a fraction or an exponent, or one of the numbers beyond all
decimals. -/
inductive Decimal where
  /-- The coefficient times ten to the exponent. -/
  | finite (negative : Bool) (coefficient : Nat) (exponent : Int)
  | infinite (negative : Bool)
  | undefined
  deriving DecidableEq, Repr

/-- A value of a settings file or of a message. -/
inductive Value where
  | null
  | bool (b : Bool)
  | int (n : Int)
  | decimal (d : Decimal)
  /-- A date, a time of day, or both, in its standard text. -/
  | time (written : String)
  | text (s : String)
  | list (items : List Value)
  | table (entries : List (String × Value))
  deriving Inhabited

/-- The entries of a table, in order. -/
abbrev Entries := List (String × Value)

/-- The value of a key, when the entries hold it. -/
def Entries.get? (entries : Entries) (key : String) : Option Value :=
  entries.lookup key

/-- The entries with the value of one key replaced where it stands, or added at the
end. -/
def Entries.put (entries : Entries) (key : String) (value : Value) : Entries :=
  match entries with
  | [] => [(key, value)]
  | (k, v) :: rest => if k = key then (k, value) :: rest else (k, v) :: Entries.put rest key value

/-- The text of a value that is a text. -/
def Value.text? : Value → Option String
  | .text s => some s
  | _ => none

/-- The items of a value that is a list. -/
def Value.list? : Value → Option (List Value)
  | .list items => some items
  | _ => none

/-- The entries of a value that is a table. -/
def Value.table? : Value → Option Entries
  | .table entries => some entries
  | _ => none

/-- The texts of a value that is a list of texts. -/
def Value.texts? (v : Value) : Option (List String) :=
  v.list?.bind fun items => items.mapM Value.text?

/-- The value of a key of a value that is a table. -/
def Value.get? (v : Value) (key : String) : Option Value :=
  v.table?.bind fun entries => entries.get? key

/-! ### Decimals -/

/-- The least size that is too large for a binary number of double precision. -/
def Decimal.bound : Nat := Nat.pow 2 1024 - Nat.pow 2 970

/-- The decimal, made infinite when it is too large for double precision. -/
def Decimal.settle : Decimal → Decimal
  | .finite negative coefficient exponent =>
    let width := (Nat.toDigits 10 coefficient).length + exponent
    if coefficient = 0 || width < 300 then .finite negative coefficient exponent
    else if width > 320 then .infinite negative
    else
      let large :=
        if exponent < 0 then Decimal.bound * Nat.pow 10 exponent.natAbs ≤ coefficient
        else Decimal.bound ≤ coefficient * Nat.pow 10 exponent.toNat
      if large then .infinite negative else .finite negative coefficient exponent
  | d => d

/-! ### Laws of entries -/

theorem Entries.get?_put_self (entries : Entries) (key : String) (value : Value) :
  (entries.put key value).get? key = some value
  := by
  induction entries with
  | nil => simp [Entries.put, Entries.get?]
  | cons e rest ih =>
      obtain ⟨k, v⟩ := e
      rw [Entries.put]
      split
      · rename_i h
        simp [Entries.get?, h]
      · rename_i h
        have hk : (key == k) = false := by simpa using Ne.symm h
        simpa [Entries.get?, List.lookup_cons, hk] using ih

theorem Entries.get?_put_of_ne (entries : Entries) {key other : String} (value : Value)
    (h : other ≠ key) :
  (entries.put key value).get? other = entries.get? other
  := by
  induction entries with
  | nil =>
      have ho : (other == key) = false := by simpa using h
      simp [Entries.put, Entries.get?, List.lookup_cons, ho]
  | cons e rest ih =>
      obtain ⟨k, v⟩ := e
      rw [Entries.put]
      split
      · rename_i hk
        have ho : (other == k) = false := by simpa [hk] using h
        simp [Entries.get?, List.lookup_cons, ho]
      · by_cases ho : other == k
        · simp [Entries.get?, List.lookup_cons, ho]
        · simp only [Bool.not_eq_true] at ho
          simpa [Entries.get?, List.lookup_cons, ho] using ih

/-- Of entries that all differ a later one has no key of the earlier ones. -/
theorem not_mem_keys_of_nodup_append {α : Type} {before after : List (String × α)}
    {entry : String × α} (h : ((before ++ entry :: after).map (·.1)).Nodup) :
  entry.1 ∉ before.map (·.1)
  := by
  rw [List.map_append, List.nodup_append] at h
  intro hmem
  exact h.2.2 _ hmem _ (List.mem_cons_self ..) rfl

/-- The entry of a new key is put at the end. -/
theorem Entries.put_of_not_mem {entries : Entries} {key : String} (h : key ∉ entries.map (·.1))
    (v : Value) :
  entries.put key v = entries ++ [(key, v)]
  := by
  induction entries with
  | nil => rfl
  | cons entry rest ih =>
      obtain ⟨k, old⟩ := entry
      rw [List.map_cons, List.mem_cons, not_or] at h
      rw [Entries.put, if_neg (Ne.symm h.1), ih h.2]
      rfl

end SourceAudit
