import Metering.Records

/-!
# Reading back what was written

A record is written with a name for each of its fields, and its reader looks the
fields up by these names, in whatever order they come and whatever else is there. So
it reads the record back, if each field is read back.

* `foldl_insert_toList`: a map is what its entries make, inserted one after the other;
* `Document.mapOf_ofMap`: values by name are read back if the values are;
* `Fields.Describe`: the value that the documents under the names of fields describe;
* `Report.Row.decode_document`: a report's row, whose document is those of two records
  side by side, is read back. The two have no name in common.
-/

namespace Metering

/-- A map is made again by inserting its entries one after the other. -/
theorem foldl_insert_toList {α β : Type} {cmp : α → α → Ordering} [Std.TransCmp cmp]
    [Std.LawfulEqCmp cmp] [DecidableEq α] (m : Std.ExtTreeMap α β cmp) :
    m.toList.foldl (fun acc entry => acc.insert entry.1 entry.2) ∅ = m := by
  rw [← Std.ExtTreeMap.ofList_eq_foldl]
  refine Std.ExtTreeMap.ext_getElem? fun k => ?_
  by_cases hk : k ∈ m
  · obtain ⟨v, hv⟩ := Option.isSome_iff_exists.1 (Std.ExtTreeMap.mem_iff_isSome_getElem?.1 hk)
    rw [hv]
    exact Std.ExtTreeMap.getElem?_ofList_of_mem Std.ReflCmp.compare_self
      Std.ExtTreeMap.distinct_keys_toList (Std.ExtTreeMap.mem_toList_iff_getElem?_eq_some.2 hv)
  · rw [Std.ExtTreeMap.getElem?_eq_none hk, Std.ExtTreeMap.getElem?_eq_none]
    rwa [Std.ExtTreeMap.mem_ofList, List.contains_iff_mem, Std.ExtTreeMap.map_fst_toList_eq_keys,
      Std.ExtTreeMap.mem_keys]

namespace Document

variable {α : Type}

/-- Among members of distinct names, each is found by its name. -/
theorem Members.getElem?_ofList {members : List (String × Document)}
    (distinct : (members.map (·.1)).Nodup) {name : String} {d : Document}
    (h : (name, d) ∈ members) : (Members.ofList members)[name]? = some d := by
  have hfold : Members.ofList members = Std.ExtTreeMap.ofList members compare :=
    Std.ExtTreeMap.ofList_eq_foldl.symm
  rw [hfold]
  refine Std.ExtTreeMap.getElem?_ofList_of_mem Std.ReflCmp.compare_self ?_ h
  refine (List.pairwise_map.1 distinct).imp fun hne heq => hne ?_
  exact Std.LawfulEqCmp.eq_of_compare heq

/-- Values by name are read back if every value is. -/
theorem mapOf_ofMap {encode : α → Document} {decode : Decoder α}
    (h : ∀ a, decode (encode a) = .ok a) (m : Std.ExtTreeMap String α) :
    mapOf decode (ofMap encode m) = .ok m := by
  -- The members are the map with its values written, so they come in its order.
  have hmembers : Members.ofList (m.toList.map fun entry => (entry.1, encode entry.2)) =
      m.map fun _ a => encode a := by
    rw [← foldl_insert_toList (m.map fun _ a => encode a), Std.ExtTreeMap.toList_map]
    rfl
  have hinsert : ∀ (acc : Std.ExtTreeMap String α) (entry : String × α),
      (do pure (acc.insert entry.1 (← decode (encode entry.2))) : Except DecodeError _) =
        pure (acc.insert entry.1 entry.2) := by
    intro acc entry
    rw [h]
    rfl
  have hlook : mapOf decode (ofMap encode m) =
      (Members.ofList (m.toList.map fun entry => (entry.1, encode entry.2))).toList.foldlM
        (fun acc entry => do pure (acc.insert entry.1 (← decode entry.2))) ∅ := rfl
  rw [hlook, hmembers, Std.ExtTreeMap.toList_map, List.foldlM_map]
  simp only [hinsert]
  rw [List.foldlM_pure, foldl_insert_toList]
  rfl

theorem string_text (s : String) : string (text s) = .ok s := rfl

theorem int64_ofInt64 (n : Int64) : int64 (ofInt64 n) = .ok n := by
  have hfits : Saturation.fits? n.toInt = some n := Saturation.fits?_eq_some_iff.2 rfl
  simp only [int64, ofInt64, hfits]

theorem uint64_ofCount (n : UInt64) : uint64 (ofCount n) = .ok n := by
  have hfits : 0 ≤ (n.toNat : Int) ∧ (n.toNat : Int).toNat < Nat.pow 2 64 :=
    ⟨Int.natCast_nonneg _, n.toNat_lt⟩
  simp only [uint64, ofCount, natural]
  rw [if_pos hfits, Int.toNat_natCast]
  exact congrArg Except.ok UInt64.ofNat_toNat

end Document

/-! ### Fields -/

namespace Fields

variable {α β : Type} {field : String → Option Document}

/-- The documents under the names of fields are in order, and describe a value. -/
structure Describe (f : Fields α) (field : String → Option Document) (a : α) : Prop where
  /-- Nothing is wrong with the documents of the fields. -/
  faultless : ∀ entry ∈ f.checks, ∀ d, field entry.1 = some d → entry.2 d = none
  /-- They describe the value. -/
  build : f.build field = .ok a

theorem describe_pure (a : α) : (pure a : Fields α).Describe field a :=
  ⟨fun _ h => absurd h List.not_mem_nil, rfl⟩

theorem describe_required {name : String} {decode : Decoder α} {d : Document} {a : α}
    (hfield : field name = some d) (hdecode : decode d = .ok a) :
    (required name decode).Describe field a := by
  constructor
  · intro entry hentry d' hd'
    obtain rfl := List.mem_singleton.1 hentry
    rw [hfield] at hd'
    cases hd'
    simp only [faultOf, hdecode]
  · simp only [required, hfield, hdecode]

theorem Describe.seq {f : Fields (α → β)} {x : Fields α} {g : α → β} {a : α}
    (hf : f.Describe field g) (hx : x.Describe field a) : (f <*> x).Describe field (g a) := by
  constructor
  · intro entry hentry
    rcases List.mem_append.1 hentry with hentry | hentry
    · exact hf.faultless entry hentry
    · exact hx.faultless entry hentry
  · have hbuild : (f <*> x).build field =
        (do let g ← f.build field; let a ← x.build field; pure (g a)) := rfl
    rw [hbuild, hf.build, hx.build]
    rfl

theorem Describe.map {x : Fields α} {a : α} (g : α → β) (hx : x.Describe field a) :
    (g <$> x).Describe field (g a) :=
  (describe_pure g).seq hx

/-- What the members of a record describe is read from them, whatever else is among them. -/
theorem Describe.ofMembers {f : Fields α} {members : Document.Members} {a : α}
    (h : f.Describe (members[·]?) a) : f.ofMembers members = .ok a := by
  have hfault : f.fault? members = none := by
    rw [fault?, List.findSome?_eq_none_iff]
    rintro ⟨name, d⟩ hmem
    -- A fault could only come from the check of a field by this name.
    rw [Option.bind_eq_none_iff]
    intro check hcheck
    obtain ⟨before, after, hchecks, -⟩ := List.lookup_eq_some_iff.1 hcheck
    exact h.faultless (name, check) (hchecks ▸ List.mem_append_right _ (.head _)) d
      (Std.ExtTreeMap.mem_toList_iff_getElem?_eq_some.1 hmem)
  simp only [Fields.ofMembers, hfault, h.build]

end Fields

/-! ### Records -/

open Document

theorem Dimensions.describe {field : String → Option Document} {d : Dimensions}
    (h : ∀ entry ∈ d.members, field entry.1 = some entry.2) :
    Dimensions.fields.Describe field d := by
  simp only [Dimensions.members, List.forall_mem_cons] at h
  obtain ⟨howner, haccount, hcluster, hzone, -⟩ := h
  exact ((((Fields.describe_required howner (string_text _)).map Dimensions.mk).seq
    (Fields.describe_required haccount (string_text _))).seq
    (Fields.describe_required hcluster (string_text _))).seq
    (Fields.describe_required hzone (string_text _))

theorem Totals.describe {field : String → Option Document} {t : Totals}
    (h : ∀ entry ∈ t.members, field entry.1 = some entry.2) : Totals.fields.Describe field t := by
  simp only [Totals.members, List.forall_mem_cons] at h
  obtain ⟨hdisk, hnetwork, hseconds, hcount, -⟩ := h
  exact ((((Fields.describe_required hdisk (int64_ofInt64 _)).map Totals.mk).seq
    (Fields.describe_required hnetwork (int64_ofInt64 _))).seq
    (Fields.describe_required hseconds (mapOf_ofMap int64_ofInt64 _))).seq
    (Fields.describe_required hcount (mapOf_ofMap uint64_ofCount _))

/-- A row is read back from its document. -/
theorem Report.Row.decode_document (row : Report.Row) : decode row.document = .ok row := by
  have distinct : ((row.dimensions.members ++ row.totals.members).map (·.1)).Nodup := by
    simp [Dimensions.members, Totals.members]
  have hfound : ∀ entry ∈ row.dimensions.members ++ row.totals.members,
      (Members.ofList (row.dimensions.members ++ row.totals.members))[entry.1]? =
        some entry.2 :=
    fun _ hentry => Members.getElem?_ofList distinct hentry
  have hdimensions := (Dimensions.describe fun entry hentry =>
    hfound entry (List.mem_append_left _ hentry)).ofMembers
  have htotals := (Totals.describe fun entry hentry =>
    hfound entry (List.mem_append_right _ hentry)).ofMembers
  simp only [decode, document]
  rw [hdimensions, htotals]
  rfl

end Metering
