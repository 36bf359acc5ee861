import Metering.Proofs.Writing

/-!
# JSON that is read back

A document without fractions is read back from its text, whatever characters its texts and
names are made of, and whatever the text goes on with behind it, if the reader goes as deep
as the document. Fractions are written as the shortest decimal and are left out.

* `Document.Plain`: the documents without fractions, whose integers fit 64 bits, and which
  are nested so many levels deep at most;
* `Reader.Takes`: how deep a reader goes;
* `Quoted.read?_escaped`: texts in quotes are read back;
* `Rereads`: a document is read back from its text in front of any other;
* `Document.Plain.rereads`, `read?_write`: plain documents are.
-/

namespace Metering

/-- Without fractions, with integers that fit 64 bits, signed or unsigned, and with so many
    lists and records in one another at most. -/
inductive Document.Plain : Nat → Document → Prop
  | null {depth : Nat} : Plain depth .null
  | boolean {depth : Nat} (b : Bool) : Plain depth (.boolean b)
  | integer {depth : Nat} {n : Int} :
      -0x8000000000000000 ≤ n → n < 0x10000000000000000 → Plain depth (.integer n)
  | text {depth : Nat} (s : String) : Plain depth (.text s)
  | list {depth : Nat} {items : List Document} :
      (∀ d ∈ items, Plain depth d) → Plain (depth + 1) (.list items)
  | record {depth : Nat} {members : List (String × Document)} :
      (∀ m ∈ members, Plain depth m.2) → Plain (depth + 1) (.record members)

namespace Json

/-! ### Texts in quotes -/

namespace Quoted

theorem hexDigit?_hexChar (n : Nat) : Text.hexDigit? (hexChar n) = some (n % 16) := by
  have hall : ∀ d < 16, Text.hexDigit? (Nat.digitChar d) = some d := by decide
  exact hall _ (Nat.mod_lt n (by decide))

/-- A control character is read back from its four digits. -/
theorem unicode?_of_lt (strict : Bool) {c : Char} (h : c < ' ') (rest : List Char) :
    unicode? strict ('0' :: '0' :: hexChar (c.toNat / 16) :: hexChar c.toNat :: rest) =
      some (c, rest) := by
  have hlt : c.toNat < 32 := h
  have hzero : Text.hexDigit? '0' = some 0 := rfl
  have hvalue : ((0 * 16 + 0) * 16 + c.toNat / 16 % 16) * 16 + c.toNat % 16 = c.toNat := by omega
  have hunit : unit? ('0' :: '0' :: hexChar (c.toNat / 16) :: hexChar c.toNat :: rest) =
      some (c.toNat, rest) := by
    simp only [unit?, hzero, hexDigit?_hexChar, Option.bind_eq_bind, Option.bind_some, hvalue]
    rfl
  have hlow : isLow c.toNat = false := by
    rw [isLow, Bool.and_eq_false_iff]
    exact .inl (decide_eq_false (by omega))
  have hhigh : isHigh c.toNat = false := by
    rw [isHigh, Bool.and_eq_false_iff]
    exact .inl (decide_eq_false (by omega))
  simp only [unicode?, hunit, Option.bind_eq_bind, Option.bind_some, hlow, hhigh,
    Bool.false_eq_true, if_false, Char.ofNat_toNat]
  rfl

/-- One step reads one character, however it is written. -/
theorem readFrom_escape (strict : Bool) (steps : Nat) (done : List Char) (c : Char)
    (rest : List Char) :
    readFrom strict (steps + 1) done (escape c ++ rest) =
      readFrom strict steps (c :: done) rest := by
  unfold escape
  -- Seven characters have an escape of one letter.
  iterate 7
    split
    · next h =>
      subst h
      rfl
  split
  · next h =>
    simp only [List.cons_append, List.nil_append, readFrom, unicode?_of_lt strict h,
      Option.bind_eq_bind, Option.bind_some]
  · next hquote hslash _ _ _ _ _ hctrl =>
    rw [List.singleton_append, readFrom]
    · rw [if_neg hctrl]
    · exact hquote
    · exact fun _ hc _ => hslash hc
    · exact fun _ _ hc _ => hslash hc

theorem readFrom_flatMap_escape (strict : Bool) {steps : Nat} {cs : List Char}
    (h : cs.length < steps) (done rest : List Char) :
    readFrom strict steps done (cs.flatMap escape ++ '"' :: rest) =
      some (String.ofList (done.reverse ++ cs), rest) := by
  induction cs generalizing steps done with
  | nil =>
    obtain ⟨steps, rfl⟩ := Nat.exists_eq_succ_of_ne_zero (Nat.ne_of_gt h)
    rw [List.append_nil]
    rfl
  | cons c cs ih =>
    obtain ⟨steps, rfl⟩ := Nat.exists_eq_succ_of_ne_zero (Nat.ne_of_gt (Nat.zero_lt_of_lt h))
    rw [List.flatMap_cons, List.append_assoc, readFrom_escape, ih (Nat.lt_of_succ_lt_succ h),
      List.reverse_cons, List.append_assoc, List.singleton_append]

theorem length_le_length_flatMap_escape (cs : List Char) :
    cs.length ≤ (cs.flatMap escape).length := by
  have hpos : ∀ c, 1 ≤ (escape c).length := by
    intro c
    unfold escape
    repeat' split
    all_goals exact Nat.le_add_left 1 _
  induction cs with
  | nil => exact Nat.le_refl 0
  | cons c cs ih =>
    rw [List.length_cons, List.flatMap_cons, List.length_append, Nat.add_comm]
    exact Nat.add_le_add (hpos c) ih

theorem toList_write (s : String) :
    (write s).toList = '"' :: (s.toList.flatMap escape ++ ['"']) := by
  simp only [write, String.toList_append, String.toList_ofList]
  rfl

/-- A text is read back, up to its closing quote. -/
theorem read?_escaped (strict : Bool) (s : String) (rest : List Char) :
    read? strict (s.toList.flatMap escape ++ '"' :: rest) = some (s, rest) := by
  have hsteps : s.toList.length < (s.toList.flatMap escape ++ '"' :: rest).length + 1 := by
    have hle := length_le_length_flatMap_escape s.toList
    rw [List.length_append]
    omega
  rw [read?, readFrom_flatMap_escape strict hsteps, List.reverse_nil, List.nil_append,
    String.ofList_toList]

end Quoted

/-! ### Documents -/

/-- The reader takes so many lists and records in one another. -/
def Reader.Takes : Reader → Nat → Prop
  | lenient, _ => True
  | strict limit, depth => depth ≤ limit

theorem Reader.Takes.inner {reader : Reader} {depth : Nat} (h : reader.Takes (depth + 1)) :
    ∃ inner, reader.inner? = some inner ∧ inner.Takes depth := by
  match reader, h with
  | lenient, _ => exact ⟨lenient, rfl, trivial⟩
  | strict (limit + 1), h => exact ⟨strict limit, rfl, Nat.le_of_succ_le_succ h⟩

/-- The document is read back from its text in front of any other that does not go on with
    what would belong to a number, by readers that go so deep, if there are levels enough
    for its characters. -/
def Rereads (depth : Nat) (d : Document) : Prop :=
  ∀ (reader : Reader) (levels : Nat) (rest : List Char), reader.Takes depth → Ends rest →
    2 * (write d).toList.length + 2 ≤ levels →
    valueFrom reader levels ((write d).toList ++ rest) = some (d, rest)

theorem ends_of_not_digit {c : Char} (h : Text.digit? 10 c = none ∧ c ≠ '.' ∧ c ≠ 'e' ∧ c ≠ 'E')
    (rest : List Char) : Ends (c :: rest) := by
  rintro _ ⟨⟩
  exact h

theorem toList_write_list (items : List Document) :
    (write (.list items)).toList = '[' :: ((writeItems items).toList ++ [']']) := by
  simp only [write, String.toList_append]
  rfl

theorem toList_write_record (members : List (String × Document)) :
    (write (.record members)).toList = '\x7b' :: ((writeMembers members).toList ++ ['\x7d']) := by
  simp only [write, String.toList_append]
  rfl

theorem toList_writeItems_cons_cons (d d' : Document) (ds : List Document) :
    (writeItems (d :: d' :: ds)).toList =
      (write d).toList ++ ',' :: (writeItems (d' :: ds)).toList := by
  rw [writeItems, String.toList_append, String.toList_append, List.append_assoc]
  · rfl
  · exact List.cons_ne_nil d' ds

/-- A name and its value, as they are written in a record. -/
def member (m : String × Document) : List Char :=
  '"' :: (m.1.toList.flatMap Quoted.escape ++ '"' :: ':' :: (write m.2).toList)

theorem toList_writeMembers_singleton (m : String × Document) :
    (writeMembers [m]).toList = member m := by
  simp only [writeMembers, String.toList_append, Quoted.toList_write, member, List.cons_append,
    List.append_assoc]
  rfl

theorem toList_writeMembers_cons_cons (m m' : String × Document) (ms : List (String × Document)) :
    (writeMembers (m :: m' :: ms)).toList =
      member m ++ ',' :: (writeMembers (m' :: ms)).toList := by
  rw [writeMembers, String.toList_append, String.toList_append, ← toList_writeMembers_singleton,
    List.append_assoc]
  · rfl
  · exact List.cons_ne_nil m' ms

theorem startsValue_write {depth : Nat} {d : Document} (h : d.Plain depth) :
    StartsValue (write d).toList := by
  cases h with
  | null => exact ⟨_, _, rfl, rfl, by decide⟩
  | boolean b => cases b <;> exact ⟨_, _, rfl, rfl, by decide⟩
  | @integer _ n _ _ =>
    have hstarts := (startsNumber_toString n []).startsValue
    rwa [List.append_nil] at hstarts
  | text s => exact ⟨_, _, Quoted.toList_write s, rfl, by decide⟩
  | list _ => exact ⟨_, _, toList_write_list _, rfl, by decide⟩
  | record _ => exact ⟨_, _, toList_write_record _, rfl, by decide⟩

section Nested

variable {depth : Nat} {reader : Reader} (htakes : reader.Takes depth)

include htakes

/-- The items of a list are read back up to its bracket. -/
theorem itemsFrom_writeItems {items : List Document} (hne : items ≠ [])
    (h : ∀ d ∈ items, Rereads depth d) (levels : Nat)
    (hlevels : 2 * (writeItems items).toList.length + 3 ≤ levels) (rest : List Char) :
    itemsFrom reader levels ((writeItems items).toList ++ ']' :: rest) = some (items, rest) := by
  induction items generalizing levels with
  | nil => exact absurd rfl hne
  | cons d ds ih =>
    obtain ⟨hd, hds⟩ := List.forall_mem_cons.1 h
    obtain ⟨levels, rfl⟩ : ∃ n, levels = n + 1 := ⟨levels - 1, by omega⟩
    cases ds with
    | nil =>
      have hends : Ends (']' :: rest) := ends_of_not_digit (by decide) rest
      have hvalue := hd reader levels _ htakes hends (by rw [writeItems] at hlevels; omega)
      rw [writeItems, itemsFrom, hvalue]
      rfl
    | cons d' ds =>
      rw [toList_writeItems_cons_cons, List.length_append, List.length_cons] at hlevels
      have hends : Ends (',' :: ((writeItems (d' :: ds)).toList ++ ']' :: rest)) :=
        ends_of_not_digit (by decide) _
      have hvalue := hd reader levels _ htakes hends (by omega)
      have hrest := ih (List.cons_ne_nil _ _) hds levels (by omega)
      rw [toList_writeItems_cons_cons, List.append_assoc, List.cons_append, itemsFrom, hvalue]
      simp only [Option.bind_eq_bind, Option.bind_some, skipBlank_cons (c := ',') rfl, hrest]
      rfl

omit htakes in
theorem length_member (m : String × Document) : (write m.2).toList.length ≤ (member m).length := by
  rw [member, List.length_cons, List.length_append, List.length_cons, List.length_cons]
  omega

section Member

variable {m : String × Document} (h : Rereads depth m.2) {levels : Nat}
  (hlevels : 2 * (member m).length + 2 ≤ levels) (rest : List Char)

include h hlevels

/-- The value of a member is read behind its name. -/
theorem valueFrom_of_member (hends : Ends rest) :
    valueFrom reader levels ((write m.2).toList ++ rest) = some (m.2, rest) :=
  h reader levels rest htakes hends (by have := length_member m; omega)

theorem membersFrom_member_brace :
    membersFrom reader (levels + 1) (member m ++ '\x7d' :: rest) = some ([m], rest) := by
  have hends : Ends ('\x7d' :: rest) := ends_of_not_digit (by decide) rest
  simp only [member, List.cons_append, List.append_assoc, membersFrom,
    skipBlank_cons (c := '"') rfl, Quoted.read?_escaped, skipBlank_cons (c := ':') rfl,
    valueFrom_of_member htakes h hlevels _ hends, Option.bind_eq_bind, Option.bind_some]
  rfl

theorem membersFrom_member_comma {ms : List (String × Document)} {rest' : List Char}
    (hrest : membersFrom reader levels rest = some (ms, rest')) :
    membersFrom reader (levels + 1) (member m ++ ',' :: rest) = some (m :: ms, rest') := by
  have hends : Ends (',' :: rest) := ends_of_not_digit (by decide) rest
  simp only [member, List.cons_append, List.append_assoc, membersFrom,
    skipBlank_cons (c := '"') rfl, Quoted.read?_escaped, skipBlank_cons (c := ':') rfl,
    valueFrom_of_member htakes h hlevels _ hends, skipBlank_cons (c := ',') rfl, hrest,
    Option.bind_eq_bind, Option.bind_some]
  rfl

end Member

/-- The members of a record are read back up to its brace. -/
theorem membersFrom_writeMembers {members : List (String × Document)} (hne : members ≠ [])
    (h : ∀ m ∈ members, Rereads depth m.2) (levels : Nat)
    (hlevels : 2 * (writeMembers members).toList.length + 3 ≤ levels) (rest : List Char) :
    membersFrom reader levels ((writeMembers members).toList ++ '\x7d' :: rest) =
      some (members, rest) := by
  induction members generalizing levels with
  | nil => exact absurd rfl hne
  | cons m ms ih =>
    obtain ⟨hm, hms⟩ := List.forall_mem_cons.1 h
    obtain ⟨levels, rfl⟩ : ∃ n, levels = n + 1 := ⟨levels - 1, by omega⟩
    cases ms with
    | nil =>
      rw [toList_writeMembers_singleton] at hlevels ⊢
      exact membersFrom_member_brace htakes hm (by omega) rest
    | cons m' ms =>
      rw [toList_writeMembers_cons_cons, List.length_append, List.length_cons] at hlevels
      have hrest := ih (List.cons_ne_nil _ _) hms levels (by omega)
      rw [toList_writeMembers_cons_cons, List.append_assoc, List.cons_append]
      exact membersFrom_member_comma htakes hm (by omega) _ hrest

end Nested

/-! ### Values -/

section Values

variable {depth : Nat}

theorem rereads_integer {n : Int} (hlo : -0x8000000000000000 ≤ n)
    (hhi : n < 0x10000000000000000) : Rereads depth (.integer n) := by
  intro reader levels rest _ hends hlevels
  obtain ⟨levels, rfl⟩ : ∃ k, levels = k + 1 := ⟨levels - 1, by omega⟩
  rw [write, (startsNumber_toString n rest).valueFrom, number?_toString _ hlo hhi hends]

theorem rereads_text (s : String) : Rereads depth (.text s) := by
  intro reader levels rest _ _ hlevels
  obtain ⟨levels, rfl⟩ : ∃ k, levels = k + 1 := ⟨levels - 1, by omega⟩
  simp only [write, Quoted.toList_write, List.cons_append, List.append_assoc, List.nil_append,
    valueFrom, skipBlank_cons (c := '"') rfl, Quoted.read?_escaped, Option.bind_eq_bind,
    Option.bind_some]
  rfl

theorem startsValue_writeItems {d : Document} (h : d.Plain depth) (ds : List Document) :
    StartsValue (writeItems (d :: ds)).toList := by
  cases ds with
  | nil => exact startsValue_write h
  | cons d' ds =>
    rw [toList_writeItems_cons_cons]
    exact (startsValue_write h).append _

theorem rereads_list {items : List Document} (h : ∀ d ∈ items, d.Plain depth ∧ Rereads depth d) :
    Rereads (depth + 1) (.list items) := by
  intro reader levels rest htakes _ hlevels
  obtain ⟨inner, hinner, htakes⟩ := htakes.inner
  rw [toList_write_list] at hlevels ⊢
  rw [List.length_cons, List.length_append, List.length_singleton] at hlevels
  obtain ⟨levels, rfl⟩ : ∃ k, levels = k + 1 := ⟨levels - 1, by omega⟩
  simp only [valueFrom, List.cons_append, List.append_assoc, List.nil_append,
    skipBlank_cons (c := '[') rfl, hinner, Option.bind_eq_bind, Option.bind_some]
  cases items with
  | nil => rfl
  | cons d ds =>
    have hitems := itemsFrom_writeItems htakes (List.cons_ne_nil d ds) (fun d hd => (h d hd).2)
      levels (by omega) rest
    -- The text of the first item is not blank, and no bracket that closes the list.
    have hstarts := (startsValue_writeItems (h d List.mem_cons_self).1 ds).append (']' :: rest)
    have hskip := hstarts.skipBlank
    obtain ⟨c, cs, hcons, -, hne⟩ := hstarts
    rw [hskip]
    split
    · next heq =>
      rw [hcons] at heq
      cases heq
      exact absurd rfl hne
    · simp only [hitems, Option.bind_some]
      rfl

theorem exists_writeMembers_eq_cons (m : String × Document) (ms : List (String × Document)) :
    ∃ cs, (writeMembers (m :: ms)).toList = '"' :: cs := by
  cases ms with
  | nil => exact ⟨_, toList_writeMembers_singleton m⟩
  | cons m' ms => exact ⟨_, toList_writeMembers_cons_cons m m' ms⟩

theorem rereads_record {members : List (String × Document)}
    (h : ∀ m ∈ members, Rereads depth m.2) : Rereads (depth + 1) (.record members) := by
  intro reader levels rest htakes _ hlevels
  obtain ⟨inner, hinner, htakes⟩ := htakes.inner
  rw [toList_write_record] at hlevels ⊢
  rw [List.length_cons, List.length_append, List.length_singleton] at hlevels
  obtain ⟨levels, rfl⟩ : ∃ k, levels = k + 1 := ⟨levels - 1, by omega⟩
  simp only [valueFrom, List.cons_append, List.append_assoc, List.nil_append,
    skipBlank_cons (c := '\x7b') rfl, hinner, Option.bind_eq_bind, Option.bind_some]
  cases members with
  | nil => rfl
  | cons m ms =>
    have hmembers := membersFrom_writeMembers htakes (List.cons_ne_nil m ms) h levels (by omega)
      rest
    -- The first name starts with a quote, so the record does not end at once.
    obtain ⟨cs, hcs⟩ := exists_writeMembers_eq_cons m ms
    rw [hcs] at hmembers ⊢
    simp only [List.cons_append, skipBlank_cons (c := '"') rfl] at hmembers ⊢
    split
    · next heq => cases heq
    · simp only [hmembers, Option.bind_some]
      rfl

end Values

end Json

/-- A document without fractions is read back in front of any other. -/
theorem Document.Plain.rereads {depth : Nat} {d : Document} (h : d.Plain depth) :
    Json.Rereads depth d := by
  induction h with
  | null =>
    intro reader levels rest _ _ hlevels
    obtain ⟨levels, rfl⟩ : ∃ k, levels = k + 1 := ⟨levels - 1, by omega⟩
    rfl
  | boolean b =>
    intro reader levels rest _ _ hlevels
    obtain ⟨levels, rfl⟩ : ∃ k, levels = k + 1 := ⟨levels - 1, by omega⟩
    cases b <;> rfl
  | integer hlo hhi => exact Json.rereads_integer hlo hhi
  | text s => exact Json.rereads_text s
  | list h ih => exact Json.rereads_list fun d hd => ⟨h d hd, ih d hd⟩
  | record _ ih => exact Json.rereads_record ih

/-- A document without fractions that is not too deep is read back from the text that it is
    written as. -/
theorem Json.read?_write {d : Document} (h : d.Plain maxDepth) : read? (write d) = some d := by
  have hvalue : value? (.strict maxDepth) (write d).toList = some (d, []) := by
    have hends : Ends [] := nofun
    have hread := h.rereads (.strict maxDepth) (2 * (write d).toList.length + 2) []
      (Nat.le_refl maxDepth) hends (Nat.le_refl _)
    rwa [List.append_nil] at hread
  rw [read?, hvalue]
  rfl

/-- One list more than so many in one another is too many. -/
example : ([127, 128].map fun depth => (Json.value? (.strict Json.maxDepth) <|
    List.replicate depth '[' ++ List.replicate depth ']').isSome) = [true, false] := by
  decide +kernel

end Metering
