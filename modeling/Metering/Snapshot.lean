/-!
# Snapshots

A snapshot is one sample of an entity's counters. The counters are cumulative:
what an entity used between two samples is the difference of their readings.
-/

namespace Metering

/-- What is metered of an entity. -/
inductive Counter where
  /-- Megabytes read from and written to disks. -/
  | diskIo
  /-- Megabytes received and sent over networks. -/
  | networkIo
deriving Repr, DecidableEq

/-- The name of a counter. -/
def Counter.name : Counter → String
  | diskIo => "disk_io"
  | networkIo => "network_io"

/-- One sample of the counters of one entity. -/
structure Snapshot where
  /-- The entity that was sampled. -/
  identity : String
  /-- The instant of the sample, in milliseconds since the epoch. -/
  timestampMs : Int64
  /-- The disk counter at that instant. -/
  diskIoMegs : Int64
  /-- The network counter at that instant. -/
  networkIoMegs : Int64
deriving Repr, DecidableEq

/-- The reading of a counter in a snapshot. -/
def Snapshot.reading (s : Snapshot) : Counter → Int64
  | .diskIo => s.diskIoMegs
  | .networkIo => s.networkIoMegs

end Metering
