import EntitySearch.Filter.Value

/-!
# Filters

The filters of a request by name. Each name has one value: a later one replaces an earlier one, and
in a JSON object a last member without filter meaning takes the name out altogether.

* `get?_insert`, `get?_erase`: what writing a name does to every name.
-/

namespace EntitySearch

/-- Filter values by name, each name once. -/
structure Filters where
  entries : List (String × FilterValue)
  nodup : (entries.map (·.1)).Nodup

namespace Filters

/-- No filters. -/
def empty : Filters := ⟨[], List.nodup_nil⟩

instance : Inhabited Filters := ⟨empty⟩

/-- The value of a name. -/
def get? (f : Filters) (key : String) : Option FilterValue := f.entries.lookup key

/-- The filters without a name. -/
def erase (f : Filters) (key : String) : Filters :=
  ⟨f.entries.filter (·.1 != key),
    f.nodup.sublist (List.Sublist.map _ List.filter_sublist)⟩

/-- The filters with a value for a name, in place of the value it had. -/
def insert (f : Filters) (key : String) (v : FilterValue) : Filters :=
  ⟨(key, v) :: (f.erase key).entries, by
    rw [List.map_cons, List.nodup_cons]
    refine ⟨?_, (f.erase key).nodup⟩
    simp [erase]⟩

/-- Whether a name has a value. -/
def contains (f : Filters) (key : String) : Bool := (f.get? key).isSome

/-- The number of names. -/
def size (f : Filters) : Nat := f.entries.length

def isEmpty (f : Filters) : Bool := f.entries.isEmpty

/-- The value of a name as text, if it is a scalar. -/
def text? (f : Filters) (key : String) : Option String := (f.get? key).bind FilterValue.text?

/-- The value of a name as text, if that is not blank. Blank characters around it stay. -/
def nonBlankText? (f : Filters) (key : String) : Option String :=
  (f.text? key).filter fun s => !Text.isBlank s

/-- The value of a name as a number. -/
def number? (f : Filters) (key : String) : Option Sql.Value := (f.get? key).bind FilterValue.number?

/-- The filters of a list, the last value of each name counting. -/
def ofList (entries : List (String × FilterValue)) : Filters :=
  entries.foldl (fun f (k, v) => f.insert k v) empty

/-- Writes a member of a JSON object: its value, or its absence. -/
def write (f : Filters) (key : String) (v : Json) : Filters :=
  match FilterValue.ofJson? v with
  | some x => f.insert key x
  | none => f.erase key

/-- The filters of the members of a JSON object. -/
def ofMembers (members : List (String × Json)) : Filters :=
  members.foldl (fun f (k, v) => f.write k v) empty

/-- The filters of a JSON object; none for any other value. -/
def ofJson : Json → Filters
  | .object members => ofMembers members
  | _ => empty

/-- Decodes filters, which must be an object all of whose parts are readable. -/
def decode? (v : Json) : Option Filters :=
  match v.whole? with
  | some (.object members) => some (ofMembers members)
  | _ => none

/-- Decodes filters from JSON text. -/
def read? (s : String) : Option Filters := (Json.read? s).bind decode?

/-- Whether two sets of filters have equal values for the same names. -/
def same (f g : Filters) : Bool :=
  f.size == g.size && f.entries.all fun (k, v) =>
    match g.get? k with
    | some w => v.same w
    | none => false

theorem get?_erase (f : Filters) (k key : String) :
    (f.erase k).get? key = if key = k then none else f.get? key := by
  obtain ⟨es, hd⟩ := f
  simp only [get?, erase]
  clear hd
  induction es with
  | nil => simp
  | cons e es ih =>
    obtain ⟨a, v⟩ := e
    by_cases ha : a = k
    · subst ha
      rw [List.filter_cons_of_neg (by simp), ih, List.lookup_cons]
      cases hk : key == a <;> simp_all
    · rw [List.filter_cons_of_pos (by simpa using ha), List.lookup_cons, List.lookup_cons]
      cases hk : key == a with
      | true => simp [show key ≠ k by rintro rfl; exact ha (beq_iff_eq.1 hk).symm]
      | false => exact ih

theorem get?_insert (f : Filters) (k : String) (v : FilterValue) (key : String) :
    (f.insert k v).get? key = if key = k then some v else f.get? key := by
  have h := get?_erase f k key
  simp only [get?, insert, List.lookup_cons] at h ⊢
  cases hk : key == k <;> simp_all

end Filters

end EntitySearch
