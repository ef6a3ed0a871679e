import SqlSmell.Rule.Registry

/- The built-in rules. Each is a pattern over the normal form of a statement; the rules on missing
   keys look at table definitions only, or every query would be reported. -/
namespace SqlSmell.Baseline

/-! ## Rationales -/

/-- Against `select *`. -/
def selectStarMessage : String := "Inefficient data transfer:
Selecting every column usually fetches more than the application needs. The
extra columns travel from the server to the client, add load on both ends and
take longer to cross the network. The cost grows silently as columns that no
consumer asked for are added to the table later.

Index usage:
A query that only reads the columns it needs can be served from a covering
index. With `*` that is impossible, and even an index covering every column
stops covering the query as soon as someone adds a column, so performance can
drop sharply with no change to the query itself.

Binding problems:
Joining two tables with `*` can return two columns of the same name, such as
two `id` columns, and the consumer has no reliable way to tell them apart.
Views defined with `*` may also return stale or misaligned data after the
underlying tables change. List the columns explicitly.
"

/-- Against lists of identifiers in a column. -/
def multiValuedAttributeMessage : String := "Store each value in its own column and row:
Keeping a list of identifiers in a VARCHAR or TEXT column hurts both
performance and integrity. Searching it needs pattern matching, joining a
comma-separated list to the rows it names is awkward and slow, and the
database cannot check that each entry is a valid identifier. The length of
the list is also capped by the column size.
Move the values into a separate intersection table with one row per value.
It models the many-to-many relationship directly and makes the identifiers
easy to query, index and validate.
"

/-- Against tables that refer to themselves. -/
def recursiveDependencyMessage : String := "Avoid recursive relationships:
Hierarchical data is common, but a foreign key from a table to itself makes
it awkward to query. Each level of the tree costs another join, and fetching
all ancestors or descendants of a node needs recursive queries.
A closure table that stores every path through the tree, not only direct
parent-child pairs, is one alternative. Path enumeration and nested sets are
others; pick the design that suits how the hierarchy is read and written.
"

/-- For primary keys. -/
def primaryKeyMessage : String := "Consider adding a primary key:
A primary key constraint keeps duplicate rows out of a table, lets queries
address individual rows and is what foreign keys in other tables refer to.
Without one, finding and removing duplicates becomes your job. Nearly every
table should declare a primary key; use a compound key where it fits the
data.
"

/-- Against columns called `id`. -/
def genericPrimaryKeyMessage : String := "Skip the generic primary key (id):
Adding a column named id to every table is an arbitrary convention. It can
produce a redundant key next to the real natural key, or allow duplicate rows
when it takes part in a compound key.
The name itself carries no meaning, which hurts most in joins, where several
tables contribute a column called id. Name the key after what it identifies,
such as user_id or order_id.
"

/-- For foreign keys. -/
def foreignKeyMessage : String := "Consider adding a foreign key:
Leaving out foreign key constraints can look simpler or faster, but the cost
moves elsewhere: application code becomes responsible for referential
integrity and has to get it right everywhere.
Foreign keys also give you what application code cannot easily mimic:
cascading updates and deletes. With ON UPDATE and ON DELETE clauses the
database keeps child rows consistent when a parent row changes. Let
constraints make the schema mistake-proof.
"

/-- Against floating point columns. -/
def impreciseTypeMessage : String := "Use NUMERIC for exact values:
FLOAT, REAL and DOUBLE PRECISION store binary approximations, so many decimal
fractions cannot be represented exactly. Rounding errors accumulate in sums
and make equality comparisons unreliable, which is unacceptable for money and
other quantities that must add up.
Use NUMERIC or DECIMAL with an explicit precision and scale; keep floating
point types for measurements where approximation is acceptable.
"

/-! ## Rules -/

/-- All columns instead of a list of them. -/
def selectStar : Except Error Rule :=
  Rule.ofPattern ⟨"SELECT *", selectStarMessage, .error, .query⟩ .always
    "select\\s+\\*" .onMatch

/-- An identifier column of a text type, which suggests a packed list. -/
def multiValuedAttribute : Except Error Rule :=
  Rule.ofPattern ⟨"Multi-Valued Attribute", multiValuedAttributeMessage, .error, .creation⟩ .always
    "id\\s+varchar|id\\s+text|id\\s+regexp" .onMatch

/-- A foreign key to the table being defined. -/
def recursiveDependency : Except Error Rule :=
  Rule.ofTablePattern ⟨"Recursive Dependency", recursiveDependencyMessage, .error, .creation⟩
    "references\\s+" .onMatch

/-- A table without a primary key. -/
def primaryKeyExists : Except Error Rule :=
  Rule.ofPattern ⟨"Primary Key Exists", primaryKeyMessage, .warning, .creation⟩ .creation
    "primary key" .onAbsence

/-- A column called `id`. -/
def genericPrimaryKey : Except Error Rule :=
  Rule.ofPattern ⟨"Generic Primary Key", genericPrimaryKeyMessage, .error, .creation⟩ .creation
    "[\\s(,]id\\s" .onMatch

/-- A table without a foreign key. -/
def foreignKeyExists : Except Error Rule :=
  Rule.ofPattern ⟨"Foreign Key Exists", foreignKeyMessage, .warning, .creation⟩ .creation
    "foreign key" .onAbsence

/-- A floating point column. -/
def impreciseDataType : Except Error Rule :=
  Rule.ofPattern ⟨"Imprecise Data Type", impreciseTypeMessage, .warning, .creation⟩ .creation
    "\\b(?:float|real|double precision)\\b" .onMatch

/-- The built-in rules, in order. -/
def rules : Except Error (List Rule) :=
  [selectStar, multiValuedAttribute, recursiveDependency, primaryKeyExists, genericPrimaryKey,
    foreignKeyExists, impreciseDataType].mapM id

end SqlSmell.Baseline

namespace SqlSmell

/-- The registry of the built-in rules. -/
def Registry.baseline : Except Error Registry := do
  Registry.empty.registerAll (← Baseline.rules)

end SqlSmell
