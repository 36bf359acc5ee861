import Metering.Proofs.Codec

/-!
# Records that are exchanged

The records that are exchanged with clients lose nothing on the way. Six of them have fields
of their own and may also be written as lists. A report's row is written as its group and its
totals side by side: no field of the one has the name of a field of the other, so each of
the two is found among the members of both.

* `Period.writes`, …: the fields of a record describe what is written under their names;
* `Report.Row.codec`: a row is read back from the fields of both its parts;
* `Totals.ofMembers_of_entries`: kinds of resource may be listed in any order;
* `records_read_back`: each record is written and read by a codec.
-/

namespace Metering

namespace Document

/-! ### Documents without fractions -/

section Plain

variable {depth : Nat}

theorem plain_ofInt64 (n : Int64) : (ofInt64 n).Plain depth :=
  .integer n.le_toInt (Int.lt_trans n.toInt_lt (by decide))

theorem plain_ofCount (n : UInt64) : (ofCount n).Plain depth :=
  .integer (Int.le_trans (by decide) (Int.natCast_nonneg _)) (Int.ofNat_lt.2 n.toNat_lt)

theorem plain_ofMap {α : Type} {encode : α → Document} (h : ∀ a, (encode a).Plain depth)
    (m : Std.ExtTreeMap String α) : (ofMap encode m).Plain (depth + 1) := by
  refine .record fun member hmember => ?_
  obtain ⟨entry, -, rfl⟩ := List.mem_map.1 hmember
  exact h entry.2

end Plain

end Document

open Document

/-! ### Records with fields -/

section Records

variable {field : String → Option Document}

theorem Period.describe {p : Period}
    (h : ∀ m ∈ p.document.members, field m.1 = some m.2) : Period.fields.Describe field p := by
  simp only [document, Document.members, List.forall_mem_cons] at h
  obtain ⟨hbeginning, hending, -⟩ := h
  exact ((Fields.describe_required hbeginning (int64_ofInt64 _)).map Period.mk).seq
    (Fields.describe_required hending (int64_ofInt64 _))

theorem Period.writes : Period.fields.Writes fun p => p.document.members where
  names_eq _ := rfl
  distinct := by decide
  isLocal := ((Fields.local_required _ _).map _).seq (Fields.local_required _ _)
  describe _ _ := Period.describe
  plain _ := by simp [document, Document.members, plain_ofInt64]

theorem Snapshot.describe {s : Snapshot}
    (h : ∀ m ∈ s.document.members, field m.1 = some m.2) : Snapshot.fields.Describe field s := by
  simp only [document, Document.members, List.forall_mem_cons] at h
  obtain ⟨hidentity, htimestamp, hdisk, hnetwork, -⟩ := h
  exact ((((Fields.describe_required hidentity (string_text _)).map Snapshot.mk).seq
    (Fields.describe_required htimestamp (int64_ofInt64 _))).seq
    (Fields.describe_required hdisk (int64_ofInt64 _))).seq
    (Fields.describe_required hnetwork (int64_ofInt64 _))

theorem Snapshot.writes : Snapshot.fields.Writes fun s => s.document.members where
  names_eq _ := rfl
  distinct := by decide
  isLocal := ((((Fields.local_required _ _).map _).seq (Fields.local_required _ _)).seq
    (Fields.local_required _ _)).seq (Fields.local_required _ _)
  describe _ _ := Snapshot.describe
  plain _ := by simp [document, Document.members, Plain.text, plain_ofInt64]

theorem Entity.describe {e : Entity}
    (h : ∀ m ∈ e.document.members, field m.1 = some m.2) : Entity.fields.Describe field e := by
  simp only [document, Document.members, List.forall_mem_cons] at h
  obtain ⟨hidentity, hresource, htype, howner, haccount, hcluster, hzone, -⟩ := h
  exact (((((((Fields.describe_required hidentity (string_text _)).map Entity.mk).seq
    (Fields.describe_required hresource (string_text _))).seq
    (Fields.describe_required htype (string_text _))).seq
    (Fields.describe_required howner (string_text _))).seq
    (Fields.describe_required haccount (string_text _))).seq
    (Fields.describe_required hcluster (string_text _))).seq
    (Fields.describe_required hzone (string_text _))

theorem Entity.writes : Entity.fields.Writes fun e => e.document.members where
  names_eq _ := rfl
  distinct := by decide
  isLocal := (((((((Fields.local_required _ _).map _).seq (Fields.local_required _ _)).seq
    (Fields.local_required _ _)).seq (Fields.local_required _ _)).seq
    (Fields.local_required _ _)).seq (Fields.local_required _ _)).seq (Fields.local_required _ _)
  describe _ _ := Entity.describe
  plain _ := by simp [document, Document.members, Plain.text]

theorem Dimensions.writes : Dimensions.fields.Writes fun d => d.document.members where
  names_eq _ := rfl
  distinct := by decide
  isLocal := ((((Fields.local_required _ _).map _).seq (Fields.local_required _ _)).seq
    (Fields.local_required _ _)).seq (Fields.local_required _ _)
  describe _ _ := Dimensions.describe
  plain _ := by simp [document, Document.members, Dimensions.members, Plain.text]

theorem Totals.writes : Totals.fields.Writes fun t => t.document.members where
  names_eq _ := rfl
  distinct := by decide
  isLocal := ((((Fields.local_required _ _).map _).seq (Fields.local_required _ _)).seq
    (Fields.local_required _ _)).seq (Fields.local_required _ _)
  describe _ _ := Totals.describe
  plain _ := by
    simp [document, Document.members, Totals.members, plain_ofInt64,
      plain_ofMap plain_ofInt64, plain_ofMap plain_ofCount]

theorem PurgeCounts.describe {c : PurgeCounts}
    (h : ∀ m ∈ c.document.members, field m.1 = some m.2) :
    PurgeCounts.fields.Describe field c := by
  simp only [document, Document.members, List.forall_mem_cons] at h
  obtain ⟨hsnapshots, hentities, -⟩ := h
  exact ((Fields.describe_required hsnapshots (uint64_ofCount _)).map PurgeCounts.mk).seq
    (Fields.describe_required hentities (uint64_ofCount _))

theorem PurgeCounts.writes : PurgeCounts.fields.Writes fun c => c.document.members where
  names_eq _ := rfl
  distinct := by decide
  isLocal := ((Fields.local_required _ _).map _).seq (Fields.local_required _ _)
  describe _ _ := PurgeCounts.describe
  plain _ := by simp [document, Document.members, plain_ofCount]

end Records

/-! ### Entries of maps -/

theorem Totals.same {field again : String → Option Document}
    (hdisk : field "diskIoMegs" = again "diskIoMegs")
    (hnetwork : field "networkIoMegs" = again "networkIoMegs")
    (hseconds : (field "perTypeSeconds").map (mapOf int64) =
      (again "perTypeSeconds").map (mapOf int64))
    (hcount : (field "perTypeCount").map (mapOf uint64) =
      (again "perTypeCount").map (mapOf uint64)) : Totals.fields.Same field again :=
  ((((Fields.same_required (congrArg _ hdisk)).map Totals.mk).seq
    (Fields.same_required (congrArg _ hnetwork))).seq
    (Fields.same_required hseconds)).seq (Fields.same_required hcount)

section Entries

variable {name : String} (hname : name ∈ ["perTypeSeconds", "perTypeCount"])
  (entries entries' before after : List (String × Document))

include hname

/-- Fields by other names are found as before. -/
theorem getElem?_ofList_of_entries {other : String}
    (hother : other ∉ ["perTypeSeconds", "perTypeCount"]) :
    (Members.ofList (before ++ (name, .record entries) :: after))[other]? =
      (Members.ofList (before ++ (name, .record entries') :: after))[other]? := by
  rcases Members.getElem?_ofList_replace before after name other (.record entries)
    (.record entries') with heq | ⟨rfl, -⟩
  · exact heq
  · exact absurd hname hother

theorem Dimensions.ofMembers_of_entries :
    Dimensions.fields.ofMembers (.ofList (before ++ (name, .record entries) :: after)) =
      Dimensions.fields.ofMembers (.ofList (before ++ (name, .record entries') :: after)) := by
  have hother : ∀ other ∈ Dimensions.fields.names, other ∉ ["perTypeSeconds", "perTypeCount"] := by
    decide
  exact Dimensions.writes.isLocal.ofMembers_eq fun other h =>
    getElem?_ofList_of_entries hname entries entries' before after (hother other h)

omit hname

variable {entries entries'} (hperm : entries.Perm entries')
  (distinct : (entries.map (·.1)).Nodup)

include hperm distinct

/-- A map is read as before. -/
theorem map_mapOf_of_entries {α : Type} (decode : Decoder α) (other : String) :
    (Members.ofList (before ++ (name, .record entries) :: after))[other]?.map (mapOf decode) =
      (Members.ofList (before ++ (name, .record entries') :: after))[other]?.map
        (mapOf decode) := by
  rcases Members.getElem?_ofList_replace before after name other (.record entries)
    (.record entries') with heq | ⟨-, hfound, hfound'⟩
  · rw [heq]
  · rw [hfound, hfound', Option.map_some, Option.map_some, mapOf_perm decode hperm distinct]

include hname

/-- Kinds of resource may come in any order. -/
theorem Totals.ofMembers_of_entries :
    Totals.fields.ofMembers (.ofList (before ++ (name, .record entries) :: after)) =
      Totals.fields.ofMembers (.ofList (before ++ (name, .record entries') :: after)) := by
  refine Fields.Same.ofMembers_eq (Totals.same ?_ ?_ ?_ ?_)
  · exact getElem?_ofList_of_entries hname entries entries' before after (by decide)
  · exact getElem?_ofList_of_entries hname entries entries' before after (by decide)
  · exact map_mapOf_of_entries before after hperm distinct int64 _
  · exact map_mapOf_of_entries before after hperm distinct uint64 _

theorem Report.Row.decode_of_entries :
    decode (.record (before ++ (name, .record entries) :: after)) =
      decode (.record (before ++ (name, .record entries') :: after)) := by
  simp only [decode, Dimensions.ofMembers_of_entries hname entries entries' before after,
    Totals.ofMembers_of_entries hname before after hperm distinct]

end Entries

/-! ### Rows of a report -/

namespace Report.Row

theorem readsOnly : ReadsOnly (Dimensions.fields.names ++ Totals.fields.names) decode := by
  intro ms ms' h
  obtain ⟨hdimensions, htotals⟩ := List.forall_mem_append.1 h
  simp only [decode, Dimensions.writes.isLocal.ofMembers_eq hdimensions,
    Totals.writes.isLocal.ofMembers_eq htotals]

theorem codec : Codec (Dimensions.fields.names ++ Totals.fields.names) decode document := by
  refine readsOnly.codec (fun row => ?_) (by decide) (fun row => ?_) decode_document
  · rfl
  · exact .record <| List.forall_mem_append.2
      ⟨Dimensions.writes.plain row.dimensions, Totals.writes.plain row.totals⟩

/-- The group is found beside the totals. -/
theorem decode_dimensions (row : Report.Row) :
    Dimensions.decode row.document = .ok row.dimensions := by
  have hother : ∀ name ∈ Totals.fields.names, name ∉ Dimensions.fields.names := by decide
  refine (Dimensions.writes.codec "SummaryKey" true).decode_among [] row.totals.members
    (List.forall_mem_nil _) fun m hm => hother m.1 ?_
  exact Totals.writes.names_eq row.totals ▸ List.mem_map_of_mem hm

/-- The totals are found beside the group. -/
theorem decode_totals (row : Report.Row) : Totals.decode row.document = .ok row.totals := by
  have hother : ∀ name ∈ Dimensions.fields.names, name ∉ Totals.fields.names := by decide
  have hmembers : row.document = .record (row.dimensions.members ++ row.totals.members ++ []) :=
    congrArg Document.record (List.append_nil _).symm
  rw [hmembers]
  refine (Totals.writes.codec "UsageSummary" true).decode_among row.dimensions.members []
    (fun m hm => hother m.1 ?_) (List.forall_mem_nil _)
  exact Dimensions.writes.names_eq row.dimensions ▸ List.mem_map_of_mem hm

end Report.Row

/-- Each record is written and read by a codec, and all but a report's row also from a list.
    A row is written as its group and its totals side by side, neither of which hides a field
    of the other. The maps by kind of resource may list the kinds in any order. -/
theorem records_read_back :
    ListedCodec ["beginningMs", "endingMs"] Period.decode Period.document ∧
    ListedCodec ["identity", "timestampMs", "cumulativeDiskIoMegs", "cumulativeNetworkIoMegs"]
      Snapshot.decode Snapshot.document ∧
    ListedCodec ["identity", "resourceId", "resourceType", "ownerId", "accountId", "clusterName",
      "availabilityZone"] Entity.decode Entity.document ∧
    ListedCodec ["ownerId", "accountId", "clusterName", "availabilityZone"]
      Dimensions.decode Dimensions.document ∧
    ListedCodec ["diskIoMegs", "networkIoMegs", "perTypeSeconds", "perTypeCount"]
      Totals.decode Totals.document ∧
    ListedCodec ["snapshots", "attributes"] PurgeCounts.decode PurgeCounts.document ∧
    Codec ["ownerId", "accountId", "clusterName", "availabilityZone", "diskIoMegs",
      "networkIoMegs", "perTypeSeconds", "perTypeCount"] Report.Row.decode Report.Row.document ∧
    (∀ row : Report.Row,
      row.document.members = row.dimensions.document.members ++ row.totals.document.members ∧
      Dimensions.decode row.document = .ok row.dimensions ∧
      Totals.decode row.document = .ok row.totals) ∧
    (∀ items : List Document, Report.Row.decode (.list items) =
      .error (.wrongType (.list items) (.record "UsageRow"))) ∧
    ∀ {name : String} {entries entries' : List (String × Document)},
      name ∈ ["perTypeSeconds", "perTypeCount"] → entries.Perm entries' →
        (entries.map (·.1)).Nodup → ∀ before after : List (String × Document),
          Totals.decode (.record (before ++ (name, .record entries) :: after)) =
            Totals.decode (.record (before ++ (name, .record entries') :: after)) ∧
          Report.Row.decode (.record (before ++ (name, .record entries) :: after)) =
            Report.Row.decode (.record (before ++ (name, .record entries') :: after)) := by
  refine ⟨Period.writes.listed _ _, Snapshot.writes.listed _ _, Entity.writes.listed _ _,
    Dimensions.writes.listed _ _, Totals.writes.listed _ _, PurgeCounts.writes.listed _ _,
    Report.Row.codec, fun row => ⟨rfl, row.decode_dimensions, row.decode_totals⟩,
    fun _ => rfl, ?_⟩
  intro name entries entries' hname hperm distinct before after
  exact ⟨Totals.ofMembers_of_entries hname before after hperm distinct,
    Report.Row.decode_of_entries hname before after hperm distinct⟩

/-- A period is read from a text that gives its end first and has a remark between, and
    totals do not depend on which of two kinds is counted first. -/
theorem records_read_back_in_any_order :
    [("endingMs", .integer 5), ("beginningMs", .integer (-1))].Perm
      (Period.document ⟨-1, 5⟩).members ∧
    (Json.read? (Json.write (.record [("endingMs", .integer 5), ("remark", .list []),
      ("beginningMs", .integer (-1))]))).map Period.decode = some (.ok ⟨-1, 5⟩) ∧
    [("b", integer 1), ("a", integer 2)].Perm [("a", integer 2), ("b", integer 1)] ∧
    Totals.decode (.record ([("networkIoMegs", .integer 0), ("diskIoMegs", .integer 3)] ++
        ("perTypeCount", .record [("b", .integer 1), ("a", .integer 2)]) ::
          [("perTypeSeconds", .record [])])) =
      Totals.decode (.record ([("networkIoMegs", .integer 0), ("diskIoMegs", .integer 3)] ++
        ("perTypeCount", .record [("a", .integer 2), ("b", .integer 1)]) ::
          [("perTypeSeconds", .record [])])) := by
  obtain ⟨hperiod, -, -, -, -, -, -, -, -, hentries⟩ := records_read_back
  refine ⟨.swap _ _ _, hperiod.decode_text_perm ⟨-1, 5⟩ _ ?_ (.swap _ _ _), .swap _ _ _, ?_⟩
  · exact .record (by simp [Plain.integer, Plain.list])
  · exact (hentries (by decide) (.swap _ _ _) (by decide) _ _).1

end Metering
