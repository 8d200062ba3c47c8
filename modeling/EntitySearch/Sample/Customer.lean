import EntitySearch.Predicate.Rule
import EntitySearch.Search.Resource

/-!
# Customers

A resource to show the library with: customers, who own vehicles. Customers can be filtered and
sorted by their own columns and, when the vehicles are joined, by the make and year of a vehicle.
Owners are customers with their vehicles joined, told apart by nothing but their identifiers.
-/

namespace EntitySearch.Sample

/-- A customer. -/
structure Customer where
  id : Int64
  name : String
  email : String
  tier : String
  score : Int32
  active : Bool
  createdAt : Calendar.DateTime
  birthDate : Calendar.Date
deriving DecidableEq

namespace Customer

/-- The columns of the table. -/
def columns : List Column := [
  ⟨"id", .bigInteger⟩, ⟨"name", .string⟩, ⟨"email", .string⟩, ⟨"tier", .string⟩,
  ⟨"score", .integer⟩, ⟨"active", .boolean⟩, ⟨"created_at", .dateTime⟩, ⟨"birth_date", .date⟩]

/-- Customers under the given attributes. -/
def entityWith (attributes : List (String × Column)) (joined : List JoinedColumn) : Entity :=
  ⟨"customers", columns, attributes, joined⟩

/-- Every column under its own name. -/
def attributes : List (String × Column) := columns.map fun c => (c.name, c)

/-- The columns of a joined vehicle that requests may speak of. -/
def vehicleColumns : List JoinedColumn := [
  ⟨"vehicles", "make", "vehicles.make", .string⟩, ⟨"vehicles", "year", "vehicles.year", .int⟩]

/-- A customer's vehicles. -/
def vehicles : Sql.LeftJoin := ⟨"vehicles", ⟨"customers", "id"⟩, ⟨"vehicles", "customer_id"⟩⟩

/-- Reads the identifier. -/
def readId? : Sql.Value → Option Int64
  | .bigInt n => some n
  | _ => none

/-- Reads a customer from a row with all columns. -/
def read? (row : Row) : Option Customer :=
  match row.value? "id", row.value? "name", row.value? "email", row.value? "tier",
    row.value? "score", row.value? "active", row.value? "created_at", row.value? "birth_date" with
  | some (.bigInt id), some (.string name), some (.string email), some (.string tier),
    some (.int score), some (.bool active), some (.dateTime createdAt), some (.date birthDate) =>
    some ⟨id, name, email, tier, score, active, createdAt, birthDate⟩
  | _, _, _, _, _, _, _, _ => none

/-- Customers without joins, aliases or defaults of their own, searched by a rule. -/
def plainResource (name : String) (entity : Entity) (rule : Rule) : Resource Int64 Customer where
  name := name
  entity := entity
  idColumn := ⟨"id", .bigInteger⟩
  createdColumn := ⟨"created_at", .dateTime⟩
  readId? := readId?
  idValue := .bigInt
  readModel? := read?
  idOf? c := some c.id
  predicate scope parameters := rule.outcome parameters scope

/-- A search for customers by a name full of special characters and by a number. -/
def discounts : Scope :=
  .new (entityWith attributes vehicleColumns)
    (.ofList [("name", .text "off 5%_!"), ("search", .text " "), ("searchText", .text "12")])
    .sqlite

/-- Customers of a name who have an address, or else who came at a date, or who are inactive. -/
def discountRule : Rule :=
  .any [
    .all [
      .all [.criterion (.textMatch .anywhere false "name" none),
        .criterion (.equality .equal "tier" none)],
      .any [.criterion (.blank true "email")]],
    .criterion (.freeText .dates ["created_at"]),
    .nothing,
    .any [.criterion (.notFlag true "active"), .criterion (.bounded .number .lower "score" none)]]

end Customer

/-- Customers, none of whom owns more than two vehicles. -/
def owners : Resource Int64 Int64 where
  name := "customers"
  entity := Customer.entityWith Customer.attributes Customer.vehicleColumns
  idColumn := ⟨"id", .bigInteger⟩
  createdColumn := ⟨"created_at", .dateTime⟩
  readId? := Customer.readId?
  idValue := .bigInt
  readModel? row := (row.value? "id").bind Customer.readId?
  idOf? := some
  predicate _ _ := .ok none
  joins := [Customer.vehicles]
  fanOut := .levels [2, 1]

/-- A row with the identifier of an owner. -/
def ownerRow (id : Int64) : Row := [("id", some (.bigInt id))]

end EntitySearch.Sample
