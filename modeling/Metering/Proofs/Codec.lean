import Mathlib.Data.List.Induction
import Mathlib.Data.List.Nodup
import Metering.Proofs.Rereading

/-!
# Codecs

The writer and the reader of a record are in accord if the reader gets back what was
written, from documents and from their text. It looks the fields up by their names, so
neither the order of the members matters to it nor what stands among them by other names;
and a reader that declares its fields also takes a list of their values.

* `Members.ofList_perm`, `Members.getElem?_ofList_filter`: which members are found by name;
* `Fields.Same`, `Fields.Local`: what fields read, and that they look at nothing else;
* `Codec`, `ListedCodec`: what the writer and the reader of a record owe each other;
* `ReadsOnly.codec`: a reader that looks at certain names alone has a codec;
* `Fields.Writes.listed`: so have fields that describe what is written under their names.
-/

namespace Metering

namespace Document

/-- The members of a record in the order in which they are written. Nothing else has any. -/
def members : Document → List (String × Document)
  | record ms => ms
  | _ => []

/-! ### Members by name -/

theorem Members.ofList_concat (ms : List (String × Document)) (m : String × Document) :
    Members.ofList (ms ++ [m]) = (Members.ofList ms).insert m.1 m.2 :=
  List.foldl_concat _ _ _ _

/-- Members by other names do not matter to a look-up. -/
theorem Members.getElem?_ofList_filter {p : String → Bool} {name : String} (h : p name)
    (ms : List (String × Document)) :
    (Members.ofList (ms.filter fun m => p m.1))[name]? = (Members.ofList ms)[name]? := by
  induction ms using List.reverseRecOn with
  | nil => rfl
  | append_singleton ms m ih =>
    rw [List.filter_append, List.filter_singleton, Members.ofList_concat,
      Std.ExtTreeMap.getElem?_insert]
    cases hm : p m.1 with
    | true => rw [Bool.cond_true, Members.ofList_concat, Std.ExtTreeMap.getElem?_insert, ih]
    | false =>
      have hne : compare m.1 name ≠ .eq := by
        intro heq
        rw [Std.LawfulEqCmp.eq_of_compare heq, h] at hm
        cases hm
      rw [Bool.cond_false, List.append_nil, if_neg hne, ih]

/-- Members of distinct names may come in any order. -/
theorem Members.ofList_perm {ms ms' : List (String × Document)} (hperm : ms.Perm ms')
    (distinct : (ms.map (·.1)).Nodup) : Members.ofList ms = Members.ofList ms' := by
  refine hperm.foldl_eq' (fun x hx y hy members => ?_) ∅
  obtain rfl | hne := eq_or_ne x y
  · rfl
  -- Two members of distinct names do not get in each other's way.
  have hname : compare x.1 y.1 ≠ .eq := by
    intro heq
    exact hne (List.inj_on_of_nodup_map distinct hx hy (Std.LawfulEqCmp.eq_of_compare heq))
  refine Std.ExtTreeMap.ext_getElem? fun name => ?_
  simp only [Std.ExtTreeMap.getElem?_insert]
  by_cases hfound : compare y.1 name = .eq
  · rw [if_pos hfound, if_pos hfound, if_neg]
    rwa [← Std.LawfulEqCmp.eq_of_compare hfound]
  · rw [if_neg hfound, if_neg hfound]

/-- With one document in the place of another, a look-up finds what it found before, or the
    one where it found the other. -/
theorem Members.getElem?_ofList_replace (before after : List (String × Document))
    (name other : String) (d d' : Document) :
    (ofList (before ++ (name, d) :: after))[other]? =
        (ofList (before ++ (name, d') :: after))[other]? ∨
      other = name ∧ (ofList (before ++ (name, d) :: after))[other]? = some d ∧
        (ofList (before ++ (name, d') :: after))[other]? = some d' := by
  induction after using List.reverseRecOn with
  | nil =>
    simp only [Members.ofList_concat, Std.ExtTreeMap.getElem?_insert]
    by_cases hname : compare name other = .eq
    · exact .inr ⟨(Std.LawfulEqCmp.eq_of_compare hname).symm, if_pos hname, if_pos hname⟩
    · exact .inl (by rw [if_neg hname, if_neg hname])
  | append_singleton after m ih =>
    simp only [← List.cons_append, ← List.append_assoc, Members.ofList_concat,
      Std.ExtTreeMap.getElem?_insert]
    by_cases hm : compare m.1 other = .eq
    · exact .inl (by rw [if_pos hm, if_pos hm])
    · simp only [if_neg hm]
      exact ih

/-- The entries of values by name may come in any order. -/
theorem mapOf_perm {α : Type} (decode : Decoder α) {entries entries' : List (String × Document)}
    (hperm : entries.Perm entries') (distinct : (entries.map (·.1)).Nodup) :
    mapOf decode (record entries) = mapOf decode (record entries') := by
  simp only [mapOf, Members.ofList_perm hperm distinct]

end Document

open Document

/-! ### What a reader looks at -/

namespace Fields

variable {α β : Type}

/-- The names of the fields in the order of declaration. -/
def names (f : Fields α) : List String := f.checks.map (·.1)

/-- Two look-ups give the fields the same to read: documents with the same faults, and
    the same value. -/
structure Same (f : Fields α) (field field' : String → Option Document) : Prop where
  /-- At each field is the same fault, if any. -/
  checks : ∀ entry ∈ f.checks, (field entry.1).bind entry.2 = (field' entry.1).bind entry.2
  /-- The value is the same, or is missed for the same reason. -/
  build : f.build field = f.build field'

section Same

variable {field field' : String → Option Document}

theorem same_pure (a : α) : (pure a : Fields α).Same field field' :=
  ⟨fun _ h => absurd h List.not_mem_nil, rfl⟩

/-- It is enough for a field that the same is read under its name. -/
theorem same_required {name : String} {decode : Decoder α}
    (h : (field name).map decode = (field' name).map decode) :
    (required name decode).Same field field' := by
  cases hd : field name <;> cases hd' : field' name <;> rw [hd, hd'] at h
  case none.none => exact ⟨by simp [required, hd, hd'], by simp only [required, hd, hd']⟩
  case some.some d d' =>
    have hdecode : decode d = decode d' := Option.some_inj.1 h
    exact ⟨by simp [required, faultOf, hd, hd', hdecode], by simp only [required, hd, hd', hdecode]⟩
  all_goals cases h

theorem Same.seq {f : Fields (α → β)} {x : Fields α} (hf : f.Same field field')
    (hx : x.Same field field') : (f <*> x).Same field field' := by
  refine ⟨List.forall_mem_append.2 ⟨hf.checks, hx.checks⟩, ?_⟩
  have hbuild : ∀ field, (f <*> x).build field =
      (do let g ← f.build field; let a ← x.build field; pure (g a)) := fun _ => rfl
  rw [hbuild, hbuild, hf.build, hx.build]

theorem Same.map {x : Fields α} (g : α → β) (hx : x.Same field field') :
    (g <$> x).Same field field' :=
  (same_pure g).seq hx

end Same

/-- What is wrong with a document under a name; under a name of no field, nothing is. -/
def faultAt (f : Fields α) (name : String) (d : Document) : Option DecodeError :=
  (f.checks.lookup name).bind fun check => check d

theorem fault?_eq_head? (f : Fields α) (members : Members) :
    f.fault? members = ((members.filterMap f.faultAt).toList.map (·.2)).head? := by
  rw [fault?, ← List.head?_filterMap, Std.ExtTreeMap.toList_filterMap, List.map_filterMap]
  refine congrArg List.head? (List.filterMap_congr fun m _ => ?_)
  rw [Option.map_map]
  exact Option.map_id'.symm

/-- Members that give the fields the same to read describe the same. -/
theorem Same.ofMembers_eq {f : Fields α} {members members' : Members}
    (h : f.Same (members[·]?) (members'[·]?)) : f.ofMembers members = f.ofMembers members' := by
  have hfaults : members.filterMap f.faultAt = members'.filterMap f.faultAt := by
    refine Std.ExtTreeMap.ext_getElem? fun name => ?_
    rw [Std.ExtTreeMap.getElem?_filterMap', Std.ExtTreeMap.getElem?_filterMap']
    cases hcheck : f.checks.lookup name with
    | none => simp only [faultAt, hcheck, Option.bind_none, Option.bind_fun_none]
    | some check =>
      obtain ⟨before, after, hchecks, -⟩ := List.lookup_eq_some_iff.1 hcheck
      simp only [faultAt, hcheck, Option.bind_some]
      exact h.checks (name, check) (hchecks ▸ List.mem_append_right _ List.mem_cons_self)
  simp only [ofMembers, fault?_eq_head?, hfaults, h.build]

/-- The documents of the fields are all that matters to them. -/
def Local (f : Fields α) : Prop :=
  ∀ field field' : String → Option Document,
    (∀ name ∈ f.names, field name = field' name) → f.Same field field'

theorem local_pure (a : α) : (pure a : Fields α).Local := fun _ _ _ => same_pure a

theorem local_required (name : String) (decode : Decoder α) : (required name decode).Local :=
  fun _ _ h => same_required (congrArg _ (h name (List.mem_singleton_self name)))

theorem Local.seq {f : Fields (α → β)} {x : Fields α} (hf : f.Local) (hx : x.Local) :
    (f <*> x).Local := by
  intro field field' h
  have hnames : (f <*> x).names = f.names ++ x.names := List.map_append
  rw [hnames, List.forall_mem_append] at h
  exact (hf field field' h.1).seq (hx field field' h.2)

theorem Local.map {x : Fields α} (g : α → β) (hx : x.Local) : (g <$> x).Local :=
  (local_pure g).seq hx

/-- Members that agree at the names of the fields describe the same. -/
theorem Local.ofMembers_eq {f : Fields α} (hf : f.Local) {members members' : Members}
    (h : ∀ name ∈ f.names, members[name]? = members'[name]?) :
    f.ofMembers members = f.ofMembers members' :=
  (hf _ _ h).ofMembers_eq

end Fields

section Codec

variable {α : Type}

/-- Of a record, the reader looks at no members but those by these names. -/
def ReadsOnly (names : List String) (decode : Decoder α) : Prop :=
  ∀ ms ms' : List (String × Document),
    (∀ name ∈ names, (Members.ofList ms)[name]? = (Members.ofList ms')[name]?) →
      decode (.record ms) = decode (.record ms')

theorem Fields.Local.readsOnly {f : Fields α} (hf : f.Local) (name : String) (exact : Bool) :
    ReadsOnly f.names (f.decode name exact) :=
  fun _ _ h => hf.ofMembers_eq h

/-! ### Codecs -/

/-- What the writer and the reader of a record with fields of these names owe each other. -/
structure Codec (names : List String) (decode : Decoder α) (document : α → Document) : Prop where
  /-- A value is written as a record. -/
  document_eq : ∀ a, document a = .record (document a).members
  /-- It has one member for each name. -/
  names_eq : ∀ a, (document a).members.map (·.1) = names
  /-- No two of its members have one name. -/
  distinct : names.Nodup
  /-- The value is read back. -/
  decode_document : ∀ a, decode (document a) = .ok a
  /-- It is read back from the text of the document. -/
  decode_text : ∀ a, (Json.read? (Json.write (document a))).map decode = some (.ok a)
  /-- Members of distinct names may come in any order. -/
  decode_perm : ∀ {ms ms' : List (String × Document)}, ms.Perm ms' → (ms.map (·.1)).Nodup →
    decode (.record ms) = decode (.record ms')
  /-- Members by other names may stand anywhere among those of the fields. -/
  decode_filter : ∀ {ms ms' : List (String × Document)},
    (ms.filter fun m => m.1 ∈ names) = (ms'.filter fun m => m.1 ∈ names) →
      decode (.record ms) = decode (.record ms')
  /-- So it is for texts, as deep as texts are read: the members of the value come in any
      order and among others. -/
  decode_text_perm : ∀ a (ms : List (String × Document)), (Document.record ms).Plain Json.maxDepth →
    (ms.filter fun m => m.1 ∈ names).Perm (document a).members →
      (Json.read? (Json.write (.record ms))).map decode = some (.ok a)
  /-- What is read from any document is read again from the document it is written as. -/
  decode_again : ∀ {d a}, decode d = .ok a → decode (document a) = decode d

/-- A codec whose reader also takes the values of the fields as a list. -/
structure ListedCodec (names : List String) (decode : Decoder α) (document : α → Document) : Prop
    extends Codec names decode document where
  /-- The values are read in the order of the names. -/
  decode_list : ∀ a, decode (.list ((document a).members.map (·.2))) = .ok a
  /-- So it is for texts. -/
  decode_list_text : ∀ a,
    (Json.read? (Json.write (.list ((document a).members.map (·.2))))).map decode = some (.ok a)

namespace ReadsOnly

variable {names : List String} {decode : Decoder α} (hreads : ReadsOnly names decode)

include hreads

theorem decode_filter {ms ms' : List (String × Document)}
    (heq : (ms.filter fun m => m.1 ∈ names) = ms'.filter fun m => m.1 ∈ names) :
    decode (.record ms) = decode (.record ms') := by
  refine hreads ms ms' fun name hname => ?_
  rw [← Members.getElem?_ofList_filter (p := (· ∈ names)) (decide_eq_true hname) ms, heq,
    Members.getElem?_ofList_filter (p := (· ∈ names)) (decide_eq_true hname) ms']

theorem decode_perm {ms ms' : List (String × Document)} (hperm : ms.Perm ms')
    (distinct : (ms.map (·.1)).Nodup) : decode (.record ms) = decode (.record ms') := by
  refine hreads ms ms' fun name _ => ?_
  rw [Members.ofList_perm hperm distinct]

/-- A reader that looks at the names of what is written, and reads it back, is in accord with
    the writer. -/
theorem codec {members : α → List (String × Document)}
    (hnames : ∀ a, (members a).map (·.1) = names) (distinct : names.Nodup)
    (hplain : ∀ a, (Document.record (members a)).Plain Json.maxDepth)
    (hdecode : ∀ a, decode (.record (members a)) = .ok a) :
    Codec names decode fun a => .record (members a) where
  document_eq _ := rfl
  names_eq := hnames
  distinct := distinct
  decode_document := hdecode
  decode_text a := by rw [Json.read?_write (hplain a), Option.map_some, hdecode]
  decode_perm := hreads.decode_perm
  decode_filter := hreads.decode_filter
  decode_text_perm a ms hms hperm := by
    have hnodup : ((ms.filter fun m => m.1 ∈ names).map (·.1)).Nodup := by
      rw [(hperm.map _).nodup_iff, Document.members, hnames]
      exact distinct
    -- First the members by other names are left out, then those of the value are put in order.
    have hknown : decode (.record ms) = decode (.record (ms.filter fun m => m.1 ∈ names)) := by
      refine hreads.decode_filter ?_
      simp only [List.filter_filter, Bool.and_self]
    rw [Json.read?_write hms, Option.map_some, hknown, hreads.decode_perm hperm hnodup]
    exact congrArg some (hdecode a)
  decode_again h := (hdecode _).trans h.symm

end ReadsOnly

/-- The members of a value are found among members by other names. -/
theorem Codec.decode_among {names : List String} {decode : Decoder α} {document : α → Document}
    (hcodec : Codec names decode document) {a : α} (before after : List (String × Document))
    (hbefore : ∀ m ∈ before, m.1 ∉ names) (hafter : ∀ m ∈ after, m.1 ∉ names) :
    decode (.record (before ++ (document a).members ++ after)) = .ok a := by
  have hfilter : ∀ ms : List (String × Document), (∀ m ∈ ms, m.1 ∉ names) →
      (ms.filter fun m => m.1 ∈ names) = [] :=
    fun ms h => List.filter_eq_nil_iff.2 fun m hm => by simpa using h m hm
  have hmembers : decode (.record (before ++ (document a).members ++ after)) =
      decode (.record (document a).members) := by
    refine hcodec.decode_filter ?_
    rw [List.filter_append, List.filter_append, hfilter before hbefore, hfilter after hafter,
      List.nil_append, List.append_nil]
  rw [hmembers, ← hcodec.document_eq, hcodec.decode_document]

/-! ### Fields that are written -/

/-- Fields that describe the value of which these are the members. -/
structure Fields.Writes (f : Fields α) (members : α → List (String × Document)) : Prop where
  /-- The members are the fields, in the order of declaration. -/
  names_eq : ∀ a, (members a).map (·.1) = f.names
  /-- No two fields have one name. -/
  distinct : f.names.Nodup
  /-- The value depends on its fields alone. -/
  isLocal : f.Local
  /-- Under the names of the members stands what describes the value. -/
  describe : ∀ a {field : String → Option Document}, (∀ m ∈ members a, field m.1 = some m.2) →
    f.Describe field a
  /-- There are no fractions among them, and nothing deeper than a map. -/
  plain : ∀ a {depth : Nat}, ∀ m ∈ members a, m.2.Plain (depth + 1)

namespace Fields.Writes

variable {f : Fields α} {members : α → List (String × Document)} (h : f.Writes members)

include h

theorem codec (name : String) (exact : Bool) :
    Codec f.names (f.decode name exact) fun a => .record (members a) := by
  refine (h.isLocal.readsOnly name exact).codec h.names_eq h.distinct
    (fun a => .record (h.plain a)) fun a => ?_
  have distinct : ((members a).map (·.1)).Nodup := (h.names_eq a).symm ▸ h.distinct
  exact (h.describe a fun m hm => Members.getElem?_ofList distinct hm).ofMembers

theorem lookup_members {a : α} {m : String × Document} (hm : m ∈ members a) :
    (members a).lookup m.1 = some m.2 := by
  obtain ⟨before, after, heq⟩ := List.append_of_mem hm
  refine List.lookup_eq_some_iff.2 ⟨before, after, heq, fun m' hm' => bne_iff_ne.2 ?_⟩
  have distinct : ((members a).map (·.1)).Nodup := (h.names_eq a).symm ▸ h.distinct
  rw [heq, List.map_append, List.nodup_append] at distinct
  exact (distinct.2.2 _ (List.mem_map_of_mem hm') _ (List.mem_map_of_mem List.mem_cons_self)).symm

/-- The values of the members in their order are the fields. -/
theorem decode_list (name : String) (exact : Bool) (a : α) :
    f.decode name exact (.list ((members a).map (·.2))) = .ok a := by
  have hlength : f.checks.length = ((members a).map (·.2)).length := by
    rw [List.length_map, ← List.length_map (f := fun m : String × Document => m.1), h.names_eq a,
      names, List.length_map]
  -- Each value is given the name that it was written under.
  have hnamed : ((f.checks.zip ((members a).map (·.2))).map fun x => (x.1.1, x.2)) = members a :=
    calc (f.checks.zip ((members a).map (·.2))).map (Prod.map (·.1) id)
      _ = (f.checks.map (·.1)).zip ((members a).map (·.2)) := List.zip_map_left.symm
      _ = ((members a).map (·.1)).zip ((members a).map (·.2)) := by rw [h.names_eq a, names]
      _ = members a := (List.zip_of_prod rfl rfl).symm
  have hdescribe : f.Describe ((members a).lookup ·) a :=
    h.describe a fun m hm => h.lookup_members hm
  have hfault : ((f.checks.zip ((members a).map (·.2))).findSome? fun x => x.1.2 x.2) = none := by
    refine List.findSome?_eq_none_iff.2 fun x hx => ?_
    have hmember : (x.1.1, x.2) ∈ members a := hnamed ▸ List.mem_map_of_mem hx
    exact hdescribe.faultless x.1 (List.of_mem_zip hx).1 x.2 (h.lookup_members hmember)
  simp only [decode, ofItems, hfault, hnamed, hdescribe.build, hlength, Nat.lt_irrefl,
    decide_false, Bool.and_false, Bool.false_eq_true, if_false]

theorem listed (name : String) (exact : Bool) :
    ListedCodec f.names (f.decode name exact) fun a => .record (members a) where
  toCodec := h.codec name exact
  decode_list := h.decode_list name exact
  decode_list_text a := by
    have hplain : (Document.list ((members a).map (·.2))).Plain Json.maxDepth := by
      refine .list fun d hd => ?_
      obtain ⟨m, hm, rfl⟩ := List.mem_map.1 hd
      exact h.plain a m hm
    simp only [Document.members, Json.read?_write hplain, Option.map_some, h.decode_list]

end Fields.Writes

end Codec

end Metering
