import Metering.Document.Decode
import Metering.Report
import Metering.Store

/-!
# Records as documents

The records that are exchanged with clients, as documents with named fields.

* `Period.document`, …: a record as a document;
* `Period.decode`, …: the record that a document describes. A report's row has
  the fields of its group and those of its totals side by side, and is not
  read from a list.
-/

namespace Metering

namespace Document

/-- A 64-bit integer as a document. -/
def ofInt64 (n : Int64) : Document := integer n.toInt

/-- A count as a document. -/
def ofCount (n : UInt64) : Document := integer n.toNat

/-- Values by name as a document. -/
def ofMap {α : Type} (encode : α → Document) (m : Std.ExtTreeMap String α) : Document :=
  record (m.toList.map fun (name, a) => (name, encode a))

end Document

open Document

namespace Period

/-- The fields of a period. -/
def fields : Fields Period :=
  Period.mk <$> .required "beginningMs" int64 <*> .required "endingMs" int64

/-- The period that a document describes. -/
def decode : Decoder Period := fields.decode "Period" true

/-- A period as a document. -/
def document (p : Period) : Document :=
  record [("beginningMs", ofInt64 p.beginningMs), ("endingMs", ofInt64 p.endingMs)]

end Period

namespace Snapshot

/-- The fields of a snapshot. -/
def fields : Fields Snapshot :=
  Snapshot.mk <$> .required "identity" string <*> .required "timestampMs" int64
    <*> .required "cumulativeDiskIoMegs" int64 <*> .required "cumulativeNetworkIoMegs" int64

/-- The snapshot that a document describes. -/
def decode : Decoder Snapshot := fields.decode "Snapshot" true

/-- A snapshot as a document. -/
def document (s : Snapshot) : Document :=
  record [("identity", text s.identity), ("timestampMs", ofInt64 s.timestampMs),
    ("cumulativeDiskIoMegs", ofInt64 s.diskIoMegs),
    ("cumulativeNetworkIoMegs", ofInt64 s.networkIoMegs)]

end Snapshot

namespace Entity

/-- The fields of an entity. -/
def fields : Fields Entity :=
  Entity.mk <$> .required "identity" string <*> .required "resourceId" string
    <*> .required "resourceType" string <*> .required "ownerId" string
    <*> .required "accountId" string <*> .required "clusterName" string
    <*> .required "availabilityZone" string

/-- The entity that a document describes. -/
def decode : Decoder Entity := fields.decode "EntityAttributes" true

/-- An entity as a document. -/
def document (e : Entity) : Document :=
  record [("identity", text e.identity), ("resourceId", text e.resourceId),
    ("resourceType", text e.resourceType), ("ownerId", text e.ownerId),
    ("accountId", text e.accountId), ("clusterName", text e.clusterName),
    ("availabilityZone", text e.availabilityZone)]

end Entity

namespace Dimensions

/-- The fields of a group. -/
def fields : Fields Dimensions :=
  Dimensions.mk <$> .required "ownerId" string <*> .required "accountId" string
    <*> .required "clusterName" string <*> .required "availabilityZone" string

/-- The group that a document describes. -/
def decode : Decoder Dimensions := fields.decode "SummaryKey" true

/-- The members of a group's document. -/
def members (d : Dimensions) : List (String × Document) :=
  [("ownerId", text d.ownerId), ("accountId", text d.accountId),
    ("clusterName", text d.clusterName), ("availabilityZone", text d.availabilityZone)]

/-- A group as a document. -/
def document (d : Dimensions) : Document := record d.members

end Dimensions

namespace Totals

/-- The fields of totals. -/
def fields : Fields Totals :=
  Totals.mk <$> .required "diskIoMegs" int64 <*> .required "networkIoMegs" int64
    <*> .required "perTypeSeconds" (mapOf int64) <*> .required "perTypeCount" (mapOf uint64)

/-- The totals that a document describes. -/
def decode : Decoder Totals := fields.decode "UsageSummary" true

/-- The members of the document of totals. -/
def members (t : Totals) : List (String × Document) :=
  [("diskIoMegs", ofInt64 t.diskIoMegs), ("networkIoMegs", ofInt64 t.networkIoMegs),
    ("perTypeSeconds", ofMap ofInt64 t.secondsByType),
    ("perTypeCount", ofMap ofCount t.countByType)]

/-- Totals as a document. -/
def document (t : Totals) : Document := record t.members

end Totals

namespace Report.Row

/-- The row that a document describes: first its group is read, then its totals. -/
def decode : Decoder Report.Row
  | record members => do
    let ms : Document.Members := .ofList members
    let dimensions ← Dimensions.fields.ofMembers ms
    let totals ← Totals.fields.ofMembers ms
    pure ⟨dimensions, totals⟩
  | d => .error (.wrongType d (.record "UsageRow"))

/-- A row as a document, the fields of both parts side by side. -/
def document (r : Report.Row) : Document := record (r.dimensions.members ++ r.totals.members)

end Report.Row

namespace PurgeCounts

/-- The fields of a purge's counts. -/
def fields : Fields PurgeCounts :=
  PurgeCounts.mk <$> .required "snapshots" uint64 <*> .required "attributes" uint64

/-- The counts that a document describes. -/
def decode : Decoder PurgeCounts := fields.decode "PurgeCounts" true

/-- Counts as a document. -/
def document (c : PurgeCounts) : Document :=
  record [("snapshots", ofCount c.snapshots), ("attributes", ofCount c.entities)]

end PurgeCounts

end Metering
