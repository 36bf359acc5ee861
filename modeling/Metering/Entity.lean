import Metering.Snapshot
import Std.Data.ExtTreeMap

/-!
# Entities

An entity is a metered resource, known by its identity. Usage is reported for
groups of entities that agree in four of their attributes, their `Dimensions`.

* `Dimensions` are ordered lexicographically, each part by code points; the
  order is total and tells different dimensions apart;
* `Row`: an entity beside one of its snapshots, what a store answers.
-/

namespace Metering

/-- The description of a metered resource, fixed when it is first seen. -/
structure Entity where
  /-- What tells the entity from all others. -/
  identity : String
  /-- The name of the resource at its provider. -/
  resourceId : String
  /-- The kind of resource, by which elapsed time is broken down. -/
  resourceType : String
  /-- Who uses the resource. -/
  ownerId : String
  /-- The account that pays for it. -/
  accountId : String
  /-- The cluster it belongs to. -/
  clusterName : String
  /-- The zone it runs in. -/
  availabilityZone : String
deriving Repr, DecidableEq

/-- The attributes by which usage is grouped. -/
structure Dimensions where
  /-- Who uses the resources. -/
  ownerId : String
  /-- The account that pays for them. -/
  accountId : String
  /-- The cluster they belong to. -/
  clusterName : String
  /-- The zone they run in. -/
  availabilityZone : String
deriving Repr, DecidableEq

/-- The group of an entity. Its identity, its resource and their kind play no part. -/
def Entity.dimensions (e : Entity) : Dimensions :=
  ⟨e.ownerId, e.accountId, e.clusterName, e.availabilityZone⟩

namespace Dimensions

/-- The owner decides, then the account, then the cluster, then the zone. -/
instance : Ord Dimensions where
  compare := compareLex (compareOn ownerId) <| compareLex (compareOn accountId) <|
    compareLex (compareOn clusterName) (compareOn availabilityZone)

instance : Std.TransOrd Dimensions :=
  inferInstanceAs (Std.TransCmp (compareLex _ _))

instance : Std.LawfulEqOrd Dimensions where
  eq_of_compare {a b} h := by
    have parts : ((compare a.ownerId b.ownerId).then <| (compare a.accountId b.accountId).then <|
        (compare a.clusterName b.clusterName).then
          (compare a.availabilityZone b.availabilityZone)) = .eq := h
    simp only [Ordering.then_eq_eq] at parts
    obtain ⟨owner, account, cluster, zone⟩ := parts
    cases a
    cases b
    simp only [mk.injEq]
    exact ⟨Std.LawfulEqOrd.eq_of_compare owner, Std.LawfulEqOrd.eq_of_compare account,
      Std.LawfulEqOrd.eq_of_compare cluster, Std.LawfulEqOrd.eq_of_compare zone⟩

end Dimensions

/-- An entity and one of its snapshots. -/
structure Row where
  /-- The entity. -/
  entity : Entity
  /-- The snapshot. -/
  snapshot : Snapshot
deriving Repr, DecidableEq

namespace Row

/-- The order in which rows are read: by identity, then by the instant of the snapshot. -/
def order : Row → Row → Ordering :=
  compareLex (compareOn (·.entity.identity)) (compareOn (·.snapshot.timestampMs))

/-- The rows in reading order; rows that are equal in it keep their places. -/
def sort (rows : List Row) : List Row := rows.mergeSort fun a b => (order a b).isLE

end Row

end Metering
