import CampaignFetch.Fetch.Row

/-!
# From rows to entities

The rows of a join are gathered into groups, one for each primary identity. A group holds the
primary entity, built from its first row, and one related entity for each row, in the order of the
rows. Groups come in ascending order of their identity, cut to a limit.

A row without a primary identity belongs to no group. A row without a related identity adds no
related entity, unless such rows are to be kept.
-/

namespace CampaignFetch

/-- A primary entity with its related entities. -/
structure Group (P R : Type) where
  primary : P
  related : List R
  deriving DecidableEq, Repr

/-- Groups by identity, ascending. -/
abbrev Groups (P R : Type) := List (Int × Group P R)

namespace Groups

variable {P R : Type}

/-- Adds related entities to the group of an identity. A group that is new begins with the given
primary entity. -/
def add (id : Int) (primary : P) (related : List R) : Groups P R → Groups P R
  | [] => [(id, ⟨primary, related⟩)]
  | (other, group) :: rest =>
    if id < other then (id, ⟨primary, related⟩) :: (other, group) :: rest
    else if id = other then (other, ⟨group.primary, group.related ++ related⟩) :: rest
    else (other, group) :: add id primary related rest

end Groups

section

variable {P R : Type} [Entity P] [Entity R]

/-- The identity of the primary entity of a row, if it has one. -/
def primaryId? (P : Type) [Entity P] (row : Row) : Option Int :=
  (row.get (Entity.kind P).identity).int64?

/-- The related entities that a row adds: one or none. -/
def relatedOf (R : Type) [Entity R] (columns : List Column) (keep : Bool) (row : Row) : List R :=
  if (row.get (Entity.kind R).identity).isNull && !keep then [] else [row.build columns]

/-- Adds a row to the groups. -/
def Groups.addRow (own related : List Column) (keep : Bool) (groups : Groups P R) (row : Row) :
    Groups P R :=
  match primaryId? P row with
  | none => groups
  | some id => groups.add id (row.build own) (relatedOf R related keep row)

/-- The groups of the rows, at most `limit` of them if there is a limit. -/
def assemble (own related : List Column) (limit : Option Nat) (keep : Bool) (rows : List Row) :
    List (Group P R) :=
  let groups := (rows.foldl (Groups.addRow own related keep) ([] : Groups P R)).map (·.2)
  match limit with
  | some n => groups.take n
  | none => groups

end

end CampaignFetch
