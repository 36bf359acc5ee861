import Metering.Http
import Metering.Proofs.Decoding

/-!
# Requests as they are written

Every period can be asked for, and every instant can be named in a purge: there is a
request for it that is read as just this call, since an integer is read back from its
decimal digits, in a query and in JSON.

* `Text.int64?_toString`: an integer in a query;
* `Json.number?_toString`: an integer in JSON;
* `Http.Request.Asks`: a request is read as a call;
* `Http.Request.asks_ofPeriod`, `Http.Request.asks_ofCutoff`: requests that are read as
  calls for the usage of a period, and for a purge.
-/

namespace Metering

/-! ### Decimal digits -/

namespace Text

theorem digit?_of_isDigit {c : Char} (h : c.isDigit) :
    digit? 10 c = some (c.toNat - '0'.toNat) := by
  obtain ⟨hlo, hhi⟩ := Char.isDigit_iff_toNat.1 h
  have hrange : '0' ≤ c ∧ c ≤ '9' := ⟨hlo, hhi⟩
  have hlt : c.toNat - '0'.toNat < 10 := by
    have : '9'.toNat = '0'.toNat + 9 := rfl
    omega
  rw [digit?, hexDigit?, if_pos hrange, Option.filter_some_pos (by simpa using hlt)]

/-- Digits are read up to a character that is none. -/
theorem digits_append {cs rest : List Char} (h : ∀ c ∈ cs, c.isDigit)
    (hrest : ∀ c ∈ rest.head?, digit? 10 c = none) :
    digits 10 (cs ++ rest) = (cs.map fun c => c.toNat - '0'.toNat, rest) := by
  induction cs with
  | nil =>
    cases rest with
    | nil => rfl
    | cons c rest => simp [digits, hrest c rfl]
  | cons c cs ih =>
    rw [List.forall_mem_cons] at h
    simp only [List.cons_append, digits, digit?_of_isDigit h.1, ih h.2, List.map_cons]

theorem isDigit_of_mem_toDigits {n : Nat} {c : Char} (h : c ∈ Nat.toDigits 10 n) : c.isDigit :=
  Nat.isDigit_of_mem_toDigits (by decide) (by decide) h

theorem exists_toDigits_eq_cons (n : Nat) : ∃ c cs, Nat.toDigits 10 n = c :: cs ∧ c.isDigit := by
  have hne : Nat.toDigits 10 n ≠ [] := Nat.toDigits_ne_nil
  obtain ⟨c, cs, hcs⟩ := List.exists_cons_of_ne_nil hne
  have hmem : c ∈ Nat.toDigits 10 n := by
    rw [hcs]
    exact List.mem_cons_self
  exact ⟨c, cs, hcs, isDigit_of_mem_toDigits hmem⟩

/-- The digits of a number that is not zero do not start with a zero. -/
theorem head?_toDigits_ne {n : Nat} (h : 0 < n) : (Nat.toDigits 10 n).head? ≠ some '0' := by
  induction n using Nat.strongRecOn with
  | ind n ih =>
    by_cases hlt : n < 10
    · rw [Nat.toDigits_of_lt_base hlt, List.head?_cons, ne_eq, Option.some.injEq,
        Nat.digitChar_eq_zero]
      omega
    · have hhead := ih (n / 10) (by omega) (by omega)
      obtain ⟨c, cs, hcs, -⟩ := exists_toDigits_eq_cons (n / 10)
      rw [hcs] at hhead
      rw [Nat.toDigits_of_base_le (by decide) (Nat.not_lt.1 hlt), hcs]
      exact hhead

/-- The numbers of the digits of a number. -/
def digitsOf (n : Nat) : List Nat := (Nat.toDigits 10 n).map fun c => c.toNat - '0'.toNat

theorem ofDigits_digitsOf (n : Nat) : ofDigits 10 (digitsOf n) = n := by
  rw [ofDigits, digitsOf, List.foldl_map]
  exact Nat.ofDigitChars_eq_foldl.symm.trans Nat.ofDigitChars_ten_toDigits

theorem digits_toDigits (n : Nat) {rest : List Char}
    (hrest : ∀ c ∈ rest.head?, digit? 10 c = none) :
    digits 10 (Nat.toDigits 10 n ++ rest) = (digitsOf n, rest) :=
  digits_append (fun _ => isDigit_of_mem_toDigits) hrest

/-- A lone zero is the only number whose digits start with zero. -/
theorem digitsOf_cases (n : Nat) :
    n = 0 ∧ digitsOf n = [0] ∨ ∃ d ds, digitsOf n = (d + 1) :: ds := by
  by_cases hn : n = 0
  · subst hn
    exact .inl ⟨rfl, rfl⟩
  · right
    obtain ⟨c, cs, hcs, hc⟩ := exists_toDigits_eq_cons n
    have hne : c ≠ '0' := by
      rintro rfl
      exact head?_toDigits_ne (Nat.pos_of_ne_zero hn) (by rw [hcs, List.head?_cons])
    -- The first digit comes behind that of zero, so its number is a successor.
    have hlo := (Char.isDigit_iff_toNat.1 hc).1
    have hne' : c.toNat ≠ '0'.toNat := fun heq => hne (Char.toNat_inj.1 heq)
    refine ⟨c.toNat - '0'.toNat - 1, cs.map fun c => c.toNat - '0'.toNat, ?_⟩
    rw [digitsOf, hcs, List.map_cons, Nat.sub_add_cancel (by omega)]

/-- An integer is written as its digits, behind a minus if it is negative. -/
theorem toList_toString_cases (i : Int) :
    (∃ n : Nat, i = n ∧ (toString i).toList = Nat.toDigits 10 n) ∨
      ∃ n : Nat, i = -n ∧ 0 < n ∧ (toString i).toList = '-' :: Nat.toDigits 10 n := by
  cases i with
  | ofNat n =>
    left
    refine ⟨n, rfl, ?_⟩
    rw [Int.toString_eq_repr, Int.repr, Nat.repr_eq_ofList_toDigits, String.toList_ofList]
  | negSucc n =>
    right
    refine ⟨n + 1, rfl, Nat.succ_pos n, ?_⟩
    rw [Int.toString_eq_repr, Int.repr, Nat.repr_eq_ofList_toDigits, String.toList_append]
    exact congrArg (['-'] ++ ·) String.toList_ofList

/-- Nothing but digits and a minus is written for an integer. -/
theorem length_toString_le (n : Int64) : (toString n.toInt).toList.length ≤ 20 := by
  have hlo := n.le_toInt
  have hhi := n.toInt_lt
  have hdigits : ∀ m : Nat, (m : Int) ≤ 0x8000000000000000 → (Nat.toDigits 10 m).length ≤ 19 :=
    fun m hm => (Nat.length_toDigits_le_iff (by decide) (by decide)).2 (by omega)
  rcases toList_toString_cases n.toInt with ⟨m, hm, hlist⟩ | ⟨m, hm, -, hlist⟩
  · rw [hlist]
    exact Nat.le_succ_of_le (hdigits m (by omega))
  · rw [hlist, List.length_cons]
    exact Nat.succ_le_succ (hdigits m (by omega))

/-- No character takes more than four bytes. -/
theorem utf8ByteSize_le (s : String) : s.utf8ByteSize ≤ 4 * s.toList.length := by
  have hchars : ∀ cs : List Char, (String.ofList cs).utf8ByteSize ≤ 4 * cs.length := by
    intro cs
    induction cs with
    | nil => exact Nat.le_refl 0
    | cons c cs ih =>
      have hc := c.utf8Size_le_four
      rw [String.ofList_cons, String.utf8ByteSize_append, String.utf8ByteSize_singleton,
        List.length_cons]
      omega
  simpa using hchars s.toList

theorem ne_of_mem_toString {i : Int} {c d : Char} (hc : c ∈ (toString i).toList)
    (hdigit : d.isDigit = false) (hminus : d ≠ '-') : c ≠ d := by
  rintro rfl
  have hnot : ∀ n, c ∉ Nat.toDigits 10 n := fun n hmem => by
    rw [isDigit_of_mem_toDigits hmem] at hdigit
    cases hdigit
  rcases toList_toString_cases i with ⟨n, -, hlist⟩ | ⟨n, -, -, hlist⟩
  · exact hnot n (hlist ▸ hc)
  · rw [hlist] at hc
    exact (List.mem_cons.1 hc).elim hminus (hnot n)

theorem sign_of_isDigit {c : Char} (h : c.isDigit) (s : List Char) :
    sign (c :: s) = (false, c :: s) := by
  unfold sign
  split
  · next heq =>
    cases heq
    cases h
  · next heq =>
    cases heq
    cases h
  · rfl

/-- A text is an integer if nothing is left of it behind its digits. -/
theorem int64?_toDigits {s : List Char} {negative : Bool} {n : Nat}
    (h : sign s = (negative, Nat.toDigits 10 n)) :
    int64? s = Saturation.fits? (if negative then -n else n) := by
  have hnothing : ∀ c ∈ ([] : List Char).head?, digit? 10 c = none := nofun
  have hdigits : digits 10 (Nat.toDigits 10 n) = (digitsOf n, []) := by
    simpa using digits_toDigits n hnothing
  have hvalue := ofDigits_digitsOf n
  rw [int64?, h]
  simp only [hdigits]
  rcases hds : digitsOf n with _ | ⟨d, ds⟩
  · exact absurd (List.map_eq_nil_iff.1 hds) Nat.toDigits_ne_nil
  · rw [hds] at hvalue
    simp only [hvalue]

/-- A 64-bit integer is read back from its digits. -/
theorem int64?_toString (n : Int64) : int64? (toString n.toInt).toList = some n := by
  rcases toList_toString_cases n.toInt with ⟨m, hm, hlist⟩ | ⟨m, hm, -, hlist⟩
  · obtain ⟨c, cs, hcs, hc⟩ := exists_toDigits_eq_cons m
    have hsign : sign (Nat.toDigits 10 m) = (false, Nat.toDigits 10 m) := by
      rw [hcs, sign_of_isDigit hc]
    rw [hlist, int64?_toDigits hsign]
    exact Saturation.fits?_eq_some_iff.2 hm
  · rw [hlist, int64?_toDigits rfl]
    exact Saturation.fits?_eq_some_iff.2 hm

/-! ### Pieces -/

variable {separator : Char} {s t : List Char}

theorem pieces_ne_nil (separator : Char) (s : List Char) : pieces separator s ≠ [] := by
  cases s with
  | nil => simp [pieces]
  | cons c s =>
    rw [pieces]
    split
    · simp
    · split <;> simp

/-- A text without a separator is one piece. -/
theorem pieces_of_forall_ne (h : ∀ c ∈ s, c ≠ separator) : pieces separator s = [s] := by
  induction s with
  | nil => rfl
  | cons c s ih =>
    rw [List.forall_mem_cons] at h
    simp only [pieces, ih h.2, if_neg h.1]

/-- What comes before the first separator is the first piece. -/
theorem pieces_append_cons (h : ∀ c ∈ s, c ≠ separator) :
    pieces separator (s ++ separator :: t) = s :: pieces separator t := by
  induction s with
  | nil =>
    rcases ht : pieces separator t with _ | ⟨piece, more⟩
    · exact absurd ht (pieces_ne_nil separator t)
    · simp [pieces, ht]
  | cons c s ih =>
    rw [List.forall_mem_cons] at h
    simp only [List.cons_append, pieces, ih h.2, if_neg h.1]

end Text

/-! ### Integers in JSON -/

namespace Json

/-- The text does not go on with what would belong to a number. -/
def Ends (rest : List Char) : Prop :=
  ∀ c ∈ rest.head?, Text.digit? 10 c = none ∧ c ≠ '.' ∧ c ≠ 'e' ∧ c ≠ 'E'

theorem Numeral.readWhole?_toDigits (n : Nat) {rest : List Char} (h : Ends rest) :
    readWhole? (Nat.toDigits 10 n ++ rest) = some (Text.digitsOf n, rest) := by
  rw [readWhole?, Text.digits_toDigits n fun c hc => (h c hc).1]
  -- A zero at the head would be refused if more digits followed it.
  rcases Text.digitsOf_cases n with ⟨-, hds⟩ | ⟨d, ds, hds⟩
  · rw [hds]
    rfl
  · rw [hds]
    rfl

theorem Numeral.readFraction?_of_ends {rest : List Char} (h : Ends rest) :
    readFraction? rest = some ([], rest) := by
  unfold readFraction?
  split
  · exact absurd rfl (h _ rfl).2.1
  · rfl

theorem Numeral.readExponent?_of_ends {rest : List Char} (h : Ends rest) :
    readExponent? rest = some (none, rest) := by
  unfold readExponent?
  split
  · exact absurd rfl (h _ rfl).2.2.1
  · exact absurd rfl (h _ rfl).2.2.2
  · rfl

/-- The numeral of whole digits that a number is written as. -/
def Numeral.ofNat (negative : Bool) (n : Nat) : Numeral := ⟨negative, Text.digitsOf n, [], none⟩

theorem Numeral.read?_toDigits (n : Nat) {rest : List Char} (h : Ends rest) :
    read? (Nat.toDigits 10 n ++ rest) = some (.ofNat false n, rest) := by
  obtain ⟨c, cs, hcs, hc⟩ := Text.exists_toDigits_eq_cons n
  have hread := readWhole?_toDigits n h
  rw [hcs, List.cons_append] at hread ⊢
  unfold read?
  split
  rename_i hsign
  split at hsign
  · next heq =>
    cases heq
    cases hc
  · cases hsign
    simp only [hread, readFraction?_of_ends h, readExponent?_of_ends h, Option.bind_eq_bind,
      Option.bind_some]
    rfl

theorem Numeral.read?_neg_toDigits (n : Nat) {rest : List Char} (h : Ends rest) :
    read? ('-' :: Nat.toDigits 10 n ++ rest) = some (.ofNat true n, rest) := by
  simp only [read?, List.cons_append, readWhole?_toDigits n h, readFraction?_of_ends h,
    readExponent?_of_ends h, Option.bind_eq_bind, Option.bind_some]
  rfl

theorem Numeral.value?_ofNat {n : Nat} (h : n < 0x10000000000000000) :
    (ofNat false n).value? = some (.integer n) := by
  simp only [value?, ofNat, Text.ofDigits_digitsOf, if_pos h]

theorem Numeral.value?_ofNat_neg {n : Nat} (hpos : 0 < n) (h : n ≤ 0x8000000000000000) :
    (ofNat true n).value? = some (.integer (-n)) := by
  simp only [value?, ofNat, Text.ofDigits_digitsOf, if_pos (And.intro hpos h)]

/-- An integer that fits 64 bits, signed or unsigned, is read back at the head of a text. -/
theorem number?_toString (strict : Bool) {n : Int} (hlo : -0x8000000000000000 ≤ n)
    (hhi : n < 0x10000000000000000) {rest : List Char} (h : Ends rest) :
    number? strict ((toString n).toList ++ rest) = some (.integer n, rest) := by
  rcases Text.toList_toString_cases n with ⟨m, hm, hlist⟩ | ⟨m, hm, hpos, hlist⟩
  · rw [hlist, number?, Numeral.read?_toDigits m h]
    simp only [Option.bind_eq_bind, Option.bind_some, Numeral.value?_ofNat (n := m) (by omega), hm]
    rfl
  · -- What is written with a minus is not zero, which would be read as no integer.
    rw [hlist, number?, Numeral.read?_neg_toDigits m h]
    simp only [Option.bind_eq_bind, Option.bind_some,
      Numeral.value?_ofNat_neg (n := m) hpos (by omega), hm]
    rfl

theorem skipBlank_cons {c : Char} (h : isBlank c = false) (s : List Char) :
    skipBlank (c :: s) = c :: s :=
  List.dropWhile_cons_of_neg (by rw [h]; exact Bool.false_ne_true)

/-- The text starts with a character that is not blank and closes no list, as every value
    does. -/
def StartsValue (s : List Char) : Prop := ∃ c cs, s = c :: cs ∧ isBlank c = false ∧ c ≠ ']'

theorem StartsValue.skipBlank {s : List Char} (h : StartsValue s) : skipBlank s = s := by
  obtain ⟨c, cs, rfl, hc, -⟩ := h
  exact skipBlank_cons hc cs

theorem StartsValue.append {s : List Char} (h : StartsValue s) (rest : List Char) :
    StartsValue (s ++ rest) := by
  obtain ⟨c, cs, rfl, hc⟩ := h
  exact ⟨c, cs ++ rest, rfl, hc⟩

/-- The text starts with a digit or a minus, which nothing but a number does. -/
def StartsNumber (s : List Char) : Prop := ∃ c cs, s = c :: cs ∧ (c.isDigit ∨ c = '-')

theorem startsNumber_toString (i : Int) (rest : List Char) :
    StartsNumber ((toString i).toList ++ rest) := by
  rcases Text.toList_toString_cases i with ⟨m, -, hlist⟩ | ⟨m, -, -, hlist⟩
  · obtain ⟨c, cs, hcs, hc⟩ := Text.exists_toDigits_eq_cons m
    exact ⟨c, cs ++ rest, by rw [hlist, hcs, List.cons_append], .inl hc⟩
  · exact ⟨'-', Nat.toDigits 10 m ++ rest, by rw [hlist, List.cons_append], .inr rfl⟩

theorem StartsNumber.startsValue {s : List Char} (h : StartsNumber s) : StartsValue s := by
  obtain ⟨c, cs, rfl, hc⟩ := h
  refine ⟨c, cs, rfl, ?_⟩
  rcases hc with hc | rfl
  · constructor
    · rw [← Bool.not_eq_true]
      simp only [isBlank, Bool.or_eq_true, decide_eq_true_eq]
      rintro (((rfl | rfl) | rfl) | rfl) <;> cases hc
    · rintro rfl
      cases hc
  · exact ⟨rfl, by decide⟩

/-- A value that starts like a number is one. -/
theorem StartsNumber.valueFrom {s : List Char} (h : StartsNumber s) (reader : Reader)
    (levels : Nat) : valueFrom reader (levels + 1) s = number? reader.isStrict s := by
  have hskip := h.startsValue.skipBlank
  obtain ⟨c, cs, rfl, hc⟩ := h
  rw [Json.valueFrom, hskip]
  split
  case h_7 => rfl
  -- Whatever else starts a value is neither a digit nor a minus.
  all_goals
    next heq =>
      cases heq
      simp at hc

end Json

namespace Http

/-! ### The body of a purge request -/

namespace Body

theorem integer_toString (n : Int64) {rest : List Char} (h : Json.Ends rest) :
    integer ((toString n.toInt).toList ++ rest) = .ok (n, rest) := by
  have hstarts := Json.startsNumber_toString n.toInt rest
  have hvalue : Json.value? (.strict Json.maxDepth) ((toString n.toInt).toList ++ rest) =
      some (.integer n.toInt, rest) := by
    have hhi : n.toInt < 0x10000000000000000 := Int.lt_trans n.toInt_lt (by decide)
    rw [Json.value?, hstarts.valueFrom]
    exact Json.number?_toString true n.le_toInt hhi h
  have hdecode : Document.int64 (.integer n.toInt) = .ok n := Document.int64_ofInt64 n
  rw [integer, hstarts.startsValue.skipBlank]
  obtain ⟨c, cs, hcs, hc⟩ := hstarts
  rw [hcs] at hvalue ⊢
  split
  · next heq =>
    cases heq
    simp at hc
  · next heq =>
    cases heq
    simp at hc
  · simp only [hvalue, hdecode]

/-- The body that names an instant. -/
def text (cutoffMs : Int64) : String :=
  Json.write (.record [(fieldName, .ofInt64 cutoffMs)])

theorem read?_fieldName (rest : List Char) :
    Json.Quoted.read? true (fieldName.toList ++ '"' :: rest) = some (fieldName, rest) := rfl

/-- The members of the record that a body is, and the brace behind them. -/
def members (cutoffMs : Int64) : List Char :=
  '"' :: (fieldName.toList ++ '"' :: ':' :: ((toString cutoffMs.toInt).toList ++ ['\x7d']))

theorem toList_text (cutoffMs : Int64) : (text cutoffMs).toList = '\x7b' :: members cutoffMs := by
  simp only [text, Json.write, Json.writeMembers, Document.ofInt64, String.toList_append]
  rfl

theorem member_members (cutoffMs : Int64) :
    member none (members cutoffMs) = .ok (some cutoffMs, ['\x7d']) := by
  have hends : Json.Ends ['\x7d'] := by
    intro c hc
    cases hc
    decide
  -- The name is that of the field, which has not been found before.
  simp only [member, members, Json.skipBlank_cons (c := '"') rfl, read?_fieldName,
    Json.skipBlank_cons (c := ':') rfl, integer_toString cutoffMs hends, Option.isSome_none,
    Bool.false_eq_true, and_false, if_false, if_true]
  rfl

theorem record_members (cutoffMs : Int64) : record (members cutoffMs) = .ok (cutoffMs, []) := by
  -- One step takes the member and the brace behind it.
  have hmembers : membersFrom ((members cutoffMs).length + 1) none (members cutoffMs) =
      .ok (some cutoffMs, []) := by
    rw [membersFrom, member_members]
    rfl
  have hskip : Json.skipBlank (members cutoffMs) = members cutoffMs := rfl
  rw [record, hskip]
  split
  · next heq =>
    cases heq
  · rw [hmembers]
    rfl

/-- The instant is read back from a body. -/
theorem purge_text (cutoffMs : Int64) : purge (text cutoffMs) = .ok cutoffMs := by
  have hlist : Json.skipBlank (text cutoffMs).toList = '\x7b' :: members cutoffMs := by
    rw [toList_text]
    rfl
  simp only [purge, hlist, record_members]
  rfl

/-- A body that names an instant is never too long. -/
theorem utf8ByteSize_text_le (cutoffMs : Int64) : (text cutoffMs).utf8ByteSize ≤ maxBodySize := by
  have hbytes := Text.utf8ByteSize_le (text cutoffMs)
  have hlength := Text.length_toString_le cutoffMs
  have hname : fieldName.toList.length = 13 := rfl
  simp only [toList_text, members, List.length_cons, List.length_append, hname,
    List.length_nil] at hbytes
  rw [maxBodySize]
  omega

end Body

/-! ### The query of a usage request -/

namespace Form

/-- What is neither a plus nor an escape stands for itself. -/
theorem decode_eq_self {s : List Char} (h : ∀ c ∈ s, c ≠ '+' ∧ c ≠ '%') : decode s = s := by
  induction s with
  | nil => rfl
  | cons c s ih =>
    rw [List.forall_mem_cons] at h
    rw [decode, ih h.2]
    · exact h.1.1
    · exact fun _ _ _ hc _ => h.1.2 hc

/-- A field is a name and a value with an equals sign between them. -/
theorem field_append {name value : List Char} (hname : ∀ c ∈ name, c ≠ '=' ∧ c ≠ '+' ∧ c ≠ '%')
    (hvalue : ∀ c ∈ value, c ≠ '+' ∧ c ≠ '%') : field (name ++ '=' :: value) = (name, value) := by
  have hpos : ∀ c ∈ name, (decide (c ≠ '=')) = true := fun c hc => decide_eq_true (hname c hc).1
  have htake : (name ++ '=' :: value).takeWhile (· ≠ '=') = name := by
    rw [List.takeWhile_append_of_pos hpos]
    exact List.append_nil name
  have hdrop : (name ++ '=' :: value).dropWhile (· ≠ '=') = '=' :: value := by
    rw [List.dropWhile_append_of_pos hpos]
    rfl
  rw [field, htake, hdrop, List.drop_one, List.tail_cons, decode_eq_self fun c hc => (hname c hc).2,
    decode_eq_self hvalue]

/-- A query of one field. -/
theorem fields_of_forall_ne {s : List Char} (hne : s ≠ []) (h : ∀ c ∈ s, c ≠ '&') :
    fields s = [field s] := by
  rw [fields, Text.pieces_of_forall_ne h, List.filter_cons_of_pos (by simpa using hne)]
  rfl

/-- A query of one field and others. -/
theorem fields_append {s t : List Char} (hne : s ≠ []) (h : ∀ c ∈ s, c ≠ '&') :
    fields (s ++ '&' :: t) = field s :: fields t := by
  rw [fields, Text.pieces_append_cons h, List.filter_cons_of_pos (by simpa using hne),
    List.map_cons, fields]

end Form

/-- The query that gives a period. -/
def queryOf (p : Period) : String :=
  "beginningMs=" ++ toString p.beginningMs.toInt ++ "&endingMs=" ++ toString p.endingMs.toInt

theorem toList_queryOf (p : Period) : (queryOf p).toList =
    ("beginningMs".toList ++ '=' :: (toString p.beginningMs.toInt).toList) ++
      '&' :: ("endingMs".toList ++ '=' :: (toString p.endingMs.toInt).toList) := by
  have hbeginning : "beginningMs=".toList = "beginningMs".toList ++ ['='] := rfl
  have hending : "&endingMs=".toList = '&' :: ("endingMs".toList ++ ['=']) := rfl
  rw [queryOf, String.toList_append, String.toList_append, String.toList_append, hbeginning,
    hending]
  simp only [List.append_assoc, List.cons_append, List.nil_append]

theorem fields_queryOf (p : Period) : Form.fields (queryOf p).toList =
    [("beginningMs".toList, (toString p.beginningMs.toInt).toList),
      ("endingMs".toList, (toString p.endingMs.toInt).toList)] := by
  have hvalue : ∀ i : Int, ∀ c ∈ (toString i).toList, c ≠ '+' ∧ c ≠ '%' := fun i c hc =>
    ⟨Text.ne_of_mem_toString hc rfl (by decide), Text.ne_of_mem_toString hc rfl (by decide)⟩
  have hampersand : ∀ name : List Char, (∀ c ∈ name, c ≠ '&') → ∀ i : Int,
      ∀ c ∈ name ++ '=' :: (toString i).toList, c ≠ '&' := by
    intro name hname i c hc
    rcases List.mem_append.1 hc with hc | hc
    · exact hname c hc
    · rcases List.mem_cons.1 hc with rfl | hc
      · decide
      · exact Text.ne_of_mem_toString hc rfl (by decide)
  rw [toList_queryOf, Form.fields_append (by simp) (hampersand _ (by simp) _),
    Form.fields_of_forall_ne (by simp) (hampersand _ (by simp) _),
    Form.field_append (by simp) (hvalue _), Form.field_append (by simp) (hvalue _)]

/-- The period is read back from a query. -/
theorem period?_queryOf (p : Period) : period? (queryOf p).toList = some p := by
  have hbeginning : Form.only? (Form.fields (queryOf p).toList) "beginningMs" =
      some (toString p.beginningMs.toInt).toList := by
    rw [fields_queryOf]
    rfl
  have hending : Form.only? (Form.fields (queryOf p).toList) "endingMs" =
      some (toString p.endingMs.toInt).toList := by
    rw [fields_queryOf]
    rfl
  simp only [period?, hbeginning, hending, Option.bind_some, Text.int64?_toString,
    Option.bind_eq_bind]
  rfl

/-! ### Requests -/

namespace Request

/-- A request is read as a call, whose answer is sent with its content. -/
def Asks (r : Request) (c : Api.Call) : Prop :=
  r.method ≠ "HEAD" ∧ ∃ e, Endpoint.ofPath? r.path = some e ∧ r.method ∈ e.methods ∧
    call e r = .ok c

/-- A request for the usage of a period. -/
def ofPeriod (p : Period) : Request where
  method := "GET"
  target := "/api/usage?" ++ queryOf p

/-- A request to purge what is before an instant. -/
def ofCutoff (cutoffMs : Int64) : Request where
  method := "POST"
  target := "/api/purge"
  headers := [("content-type", "application/json")]
  body := Body.text cutoffMs

theorem toList_target (p : Period) :
    (ofPeriod p).target.toList = "/api/usage?".toList ++ (queryOf p).toList := by
  rw [ofPeriod, String.toList_append]

theorem ne_hash_of_mem_target {p : Period} {c : Char} (h : c ∈ (ofPeriod p).target.toList) :
    c ≠ '#' := by
  have hpath : ∀ c ∈ "/api/usage?".toList, c ≠ '#' := by simp
  have hbeginning : ∀ c ∈ "beginningMs".toList, c ≠ '#' := by simp
  have hending : ∀ c ∈ "endingMs".toList, c ≠ '#' := by simp
  have hnumber : ∀ i : Int, ∀ c ∈ (toString i).toList, c ≠ '#' := fun i c hc =>
    Text.ne_of_mem_toString hc rfl (by decide)
  rw [toList_target, toList_queryOf] at h
  simp only [List.mem_append, List.mem_cons] at h
  rcases h with h | (h | rfl | h) | rfl | h | rfl | h
  · exact hpath c h
  · exact hbeginning c h
  · decide
  · exact hnumber _ c h
  · decide
  · exact hending c h
  · decide
  · exact hnumber _ c h

theorem query_ofPeriod (p : Period) : (ofPeriod p).query = (queryOf p).toList := by
  have hhash : (ofPeriod p).target.toList.takeWhile (· ≠ '#') = (ofPeriod p).target.toList := by
    have hwhole : ((ofPeriod p).target.toList ++ []).takeWhile (· ≠ '#') =
        (ofPeriod p).target.toList ++ [].takeWhile (· ≠ '#') :=
      List.takeWhile_append_of_pos fun c hc => decide_eq_true (ne_hash_of_mem_target hc)
    simpa using hwhole
  rw [query, hhash, toList_target]
  rfl

/-- Every period can be asked for. -/
theorem asks_ofPeriod (p : Period) : (ofPeriod p).Asks (.usage p) := by
  have hpath : Endpoint.ofPath? (ofPeriod p).path = some .usage := by
    rw [path, ofPeriod, String.toList_append]
    rfl
  refine ⟨by simp [ofPeriod], .usage, hpath, by simp [ofPeriod, Endpoint.methods], ?_⟩
  simp only [call, query_ofPeriod, period?_queryOf]

/-- Every instant can be named in a purge. -/
theorem asks_ofCutoff (cutoffMs : Int64) : (ofCutoff cutoffMs).Asks (.purge cutoffMs) := by
  have hpath : Endpoint.ofPath? (ofCutoff cutoffMs).path = some .purge := by
    change Endpoint.ofPath? (path { method := "POST", target := "/api/purge" }) = _
    decide +kernel
  have hjson : (ofCutoff cutoffMs).hasJson = true := by
    change hasJson { method := "POST", target := "/api/purge",
                     headers := [("content-type", "application/json")] } = _
    decide +kernel
  refine ⟨by simp [ofCutoff], .purge, hpath, by simp [ofCutoff, Endpoint.methods], ?_⟩
  have hbody : Body.purge (ofCutoff cutoffMs).body = .ok cutoffMs := Body.purge_text cutoffMs
  have hsize : (ofCutoff cutoffMs).body.utf8ByteSize ≤ maxBodySize :=
    Body.utf8ByteSize_text_le cutoffMs
  simp only [call, hjson, hsize, hbody, if_true]

end Request

end Http

end Metering
