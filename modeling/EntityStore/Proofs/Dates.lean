import EntityStore.Proofs.Numerals

/-! The grammar of dates. A text is three runs of digits with dashes between them, and perhaps a dash in front, in one way
at most. It is read as a date where the digits are ASCII ones and their numbers have 32 bits, and so it is by whatever
matches it as a pattern first, with the digits of any script. -/

namespace EntityStore
open Text.Decimal

namespace Text

@[ext]
structure Run (digit : Char → Bool) where
  chars : List Char
  nonempty : chars ≠ []
  digits : ∀ c ∈ chars, digit c = true

namespace Run
variable {digit wider : Char → Bool}

theorem ne_of_mem (run : Run digit) {c other : Char} (outside : digit other = false) (member : c ∈ run.chars) :
    c ≠ other := by
  rintro rfl
  rw [run.digits c member] at outside
  cases outside

theorem head_ne (run : Run digit) {other : Char} (outside : digit other = false) (rest : List Char) :
    run.chars ≠ other :: rest :=
  fun same => run.ne_of_mem outside (same ▸ List.mem_cons_self) rfl

def widen (run : Run digit) (inside : ∀ c, digit c = true → wider c = true) : Run wider :=
  ⟨run.chars, run.nonempty, fun c member => inside c (run.digits c member)⟩

/-- The number that digits are. -/
def value (run : Run Char.isDigit) : Nat := Nat.ofDigitChars 10 run.chars 0

def padded (zeros : Nat) (run : Run Char.isDigit) : Run Char.isDigit where
  chars := List.replicate zeros '0' ++ run.chars
  nonempty empty := run.nonempty (List.append_eq_nil_iff.mp empty).2
  digits c member := by
    rcases List.mem_append.mp member with zero | member
    · rw [List.eq_of_mem_replicate zero]
      rfl
    · exact run.digits c member

theorem value_padded (zeros : Nat) (run : Run Char.isDigit) : (run.padded zeros).value = run.value := by
  rw [value, padded, Nat.ofDigitChars_append, Nat.ofDigitChars_replicate_zero, Nat.mul_zero]
  rfl

theorem numeral_value (run : Run Char.isDigit) : Decimal.Numeral run.chars run.value :=
  numeral_ofDigitChars run.digits run.nonempty

end Run

theorem Decimal.Numeral.exists_run {text : List Char} {n : Nat} (written : Numeral text n) :
    ∃ run : Run Char.isDigit, run.chars = text ∧ run.value = n := by
  have read := natural?_eq_some.mpr written
  unfold natural? at read
  split at read
  · cases read
  rename_i nonempty
  split at read
  · rename_i digits
    cases read
    exact ⟨⟨text, mt List.isEmpty_iff.mpr nonempty, List.all_eq_true.mp digits⟩, rfl, rfl⟩
  · cases read

end Text

open Text

namespace Codec

/-- Whether a text begins with a sign, and the text without it. -/
def takeSign (text : List Char) : Bool × List Char :=
  match text with
  | '-' :: rest => (true, rest)
  | _ => (false, text)

theorem takeSign_of_ne {c : Char} (dashless : c ≠ '-') (rest : List Char) :
    takeSign (c :: rest) = (false, c :: rest) := by
  unfold takeSign
  split
  · rename_i found
    exact absurd (List.cons.inj found).1 dashless
  · rfl

/-- The sign of a text and what stands before, between and after the next two dashes. -/
def cut? (text : List Char) : Option (Bool × List Char × List Char × List Char) := do
  let (year, rest) ← splitDash (takeSign text).2
  let (month, day) ← splitDash rest
  return ((takeSign text).1, year, month, day)

/-- A date with its numbers read from digits. -/
def dated? (negative : Bool) (year month day : List Char) : Option Date := do
  return ⟨← narrow? negative year, ← narrow? false month, ← narrow? false day⟩

theorem date?_eq_cut? (text : List Char) :
    date? text = (cut? text).bind fun (negative, year, month, day) => dated? negative year month day := by
  have whole : date? text = unsignedDate? (takeSign text).1 (takeSign text).2 := rfl
  rw [whole, unsignedDate?, cut?]
  simp [dated?, Option.bind_assoc]

end Codec

@[ext]
structure DateParts (digit : Char → Bool) where
  negative : Bool
  year : Run digit
  month : Run digit
  day : Run digit

namespace DateParts
variable {digit wider : Char → Bool}

def signedYear (parts : DateParts digit) : List Char := (if parts.negative then ['-'] else []) ++ parts.year.chars

def text (parts : DateParts digit) : List Char :=
  parts.signedYear ++ '-' :: (parts.month.chars ++ '-' :: parts.day.chars)

def groups (parts : DateParts digit) : List Char × List Char × List Char :=
  (parts.signedYear, parts.month.chars, parts.day.chars)

def widen (parts : DateParts digit) (inside : ∀ c, digit c = true → wider c = true) : DateParts wider :=
  ⟨parts.negative, parts.year.widen inside, parts.month.widen inside, parts.day.widen inside⟩

section Cut
variable (dash : digit '-' = false)

include dash

theorem cut?_text (parts : DateParts digit) :
    Codec.cut? parts.text = some (parts.negative, parts.year.chars, parts.month.chars, parts.day.chars) := by
  have bare (run : Run digit) : ∀ c ∈ run.chars, c ≠ '-' := fun c member => run.ne_of_mem dash member
  have splits (run : Run digit) (rest : List Char) :
      Codec.splitDash (run.chars ++ '-' :: rest) = some (run.chars, rest) := Codec.splitDash_append (bare run) rest
  have sign : Codec.takeSign parts.text =
      (parts.negative, parts.year.chars ++ '-' :: (parts.month.chars ++ '-' :: parts.day.chars)) := by
    obtain ⟨_ | _, year, month, day⟩ := parts
    · obtain ⟨c, tail, chars⟩ := List.exists_cons_of_ne_nil year.nonempty
      have first : c ≠ '-' := bare year c (chars ▸ List.mem_cons_self)
      simp only [text, signedYear, chars]
      exact Codec.takeSign_of_ne first _
    · rfl
  simp [Codec.cut?, sign, splits]

/-- A text has its parts in one way only. -/
theorem text_injective : Function.Injective (text : DateParts digit → List Char) := by
  intro parts others same
  have cut := cut?_text dash parts
  rw [same, cut?_text dash others] at cut
  simp only [Option.some.injEq, Prod.mk.injEq] at cut
  obtain ⟨negative, year, month, day⟩ := cut
  exact DateParts.ext negative.symm (Run.ext year.symm) (Run.ext month.symm) (Run.ext day.symm)

end Cut

/-! ### Dates in ASCII digits -/

section Ascii
variable {parts : DateParts Char.isDigit} {date : Date}

def yearNumber (parts : DateParts Char.isDigit) : Int :=
  if parts.negative then -(parts.year.value : Int) else parts.year.value

/-- The numbers have 32 bits. -/
structure Fits (parts : DateParts Char.isDigit) : Prop where
  year : parts.yearNumber ∈ IntRange.signed32
  month : (parts.month.value : Int) ∈ IntRange.signed32
  day : (parts.day.value : Int) ∈ IntRange.signed32

/-- The numbers are those of a date. -/
structure Names (parts : DateParts Char.isDigit) (date : Date) : Prop where
  year : date.year.toInt = parts.yearNumber
  month : date.month.toInt = parts.month.value
  day : date.day.toInt = parts.day.value

def padded (years months days : Nat) (parts : DateParts Char.isDigit) : DateParts Char.isDigit :=
  ⟨parts.negative, parts.year.padded years, parts.month.padded months, parts.day.padded days⟩

theorem fits_iff : parts.Fits ↔ ∃ date, parts.Names date := by
  constructor
  · rintro ⟨year, month, day⟩
    have exact {n : Int} (inside : n ∈ IntRange.signed32) : (Int32.ofInt n).toInt = n :=
      Int32.toInt_ofInt_of_le inside.1 (Int.lt_add_one_of_le inside.2)
    exact ⟨⟨.ofInt parts.yearNumber, .ofInt parts.month.value, .ofInt parts.day.value⟩, exact year, exact month, exact day⟩
  · rintro ⟨date, year, month, day⟩
    have inside := IntRange.toInt_mem_signed32
    exact ⟨year ▸ inside date.year, month ▸ inside date.month, day ▸ inside date.day⟩

theorem names_padded (years months days : Nat) : (parts.padded years months days).Names date ↔ parts.Names date := by
  have year : (parts.padded years months days).yearNumber = parts.yearNumber := by
    simp only [yearNumber, padded, Run.value_padded]
  have month : ((parts.padded years months days).month.value : Int) = parts.month.value :=
    congrArg _ (Run.value_padded months parts.month)
  have day : ((parts.padded years months days).day.value : Int) = parts.day.value :=
    congrArg _ (Run.value_padded days parts.day)
  constructor
  · rintro ⟨first, second, third⟩
    exact ⟨first.trans year, second.trans month, third.trans day⟩
  · rintro ⟨first, second, third⟩
    exact ⟨first.trans year.symm, second.trans month.symm, third.trans day.symm⟩

theorem Names.signed (names : parts.Names date) : Codec.Signed parts.negative parts.year.chars date.year ∧
    Codec.Signed false parts.month.chars date.month ∧ Codec.Signed false parts.day.chars date.day :=
  ⟨⟨_, parts.year.numeral_value, names.year⟩, ⟨_, parts.month.numeral_value, names.month⟩,
    ⟨_, parts.day.numeral_value, names.day⟩⟩

end Ascii
end DateParts

theorem Codec.dated_iff {text : List Char} {date : Date} :
    Dated text date ↔ ∃ parts : DateParts Char.isDigit, parts.text = text ∧ parts.Names date := by
  constructor
  · rintro ⟨negative, _, _, _, rfl, ⟨_, first, years⟩, ⟨_, second, months⟩, ⟨_, third, days⟩⟩
    obtain ⟨year, rfl, rfl⟩ := first.exists_run
    obtain ⟨month, rfl, rfl⟩ := second.exists_run
    obtain ⟨day, rfl, rfl⟩ := third.exists_run
    exact ⟨⟨negative, year, month, day⟩, List.append_assoc _ _ _, years, months, days⟩
  · rintro ⟨parts, rfl, names⟩
    exact ⟨parts.negative, _, _, _, List.append_assoc _ _ _, names.signed⟩

namespace Scalar

theorem decode_text (content : String) : (decode (.text content) : Except CodecError Date) =
    match Codec.date? content.toList with
    | some date => .ok date
    | none => .error (.invalidDate content) := rfl

theorem decode_eq_ok {content : String} {date : Date} :
    decode (.text content) = .ok date ↔
      ∃ parts : DateParts Char.isDigit, parts.text = content.toList ∧ parts.Names date := by
  rw [← Codec.dated_iff, ← Codec.date?_eq_some, decode_text]
  cases Codec.date? content.toList <;> simp

end Scalar

/-! ### Dates through a pattern -/

namespace Codec

/-- A number of 32 bits with or without a sign of either kind. -/
def parse? : List Char → Option Int32
  | '-' :: digits => narrow? true digits
  | '+' :: digits => narrow? false digits
  | digits => narrow? false digits

/-- What is read of a text whose groups are taken from it by a matcher of the pattern `^(-?\d+)-(\d+)-(\d+)$`. -/
def readGroups (captures : List Char → Option (List Char × List Char × List Char)) (content : String) :
    Except CodecError Date :=
  match captures content.toList with
  | none => .error (.invalidDate content)
  | some (year, month, day) =>
      match (do return ⟨← parse? year, ← parse? month, ← parse? day⟩ : Option Date) with
      | some date => .ok date
      | none => .error (.invalidDate content)

/-- A class of digits in which the ASCII characters are the ten digits. -/
def Decimal (decimal : Char → Bool) : Prop := ∀ c : Char, c.toNat < 128 → decimal c = c.isDigit

/-- A matcher of whole texts, which gives the groups of a text wherever it has parts. -/
structure Matches (decimal : Char → Bool) (captures : List Char → Option (List Char × List Char × List Char)) :
    Prop where
  sound : ∀ text groups, captures text = some groups →
    ∃ parts : DateParts decimal, parts.text = text ∧ parts.groups = groups
  complete : ∀ parts : DateParts decimal, captures parts.text ≠ none

section Groups
variable {decimal : Char → Bool} (digits : Decimal decimal)

include digits

theorem Decimal.of_isDigit (c : Char) (digit : c.isDigit = true) : decimal c = true := by
  have small : c.toNat < 128 := Nat.lt_of_le_of_lt (Char.isDigit_iff_toNat.mp digit).2 (by decide)
  rw [digits c small, digit]

theorem Decimal.parse?_run (run : Run decimal) : parse? run.chars = narrow? false run.chars := by
  unfold parse?
  split
  · rename_i found
    exact absurd found (run.head_ne (digits '-' (by decide)) _)
  · rename_i found
    exact absurd found (run.head_ne (digits '+' (by decide)) _)
  · rfl

theorem Decimal.parse?_signedYear (parts : DateParts decimal) :
    parse? parts.signedYear = narrow? parts.negative parts.year.chars := by
  obtain ⟨_ | _, year, month, day⟩ := parts
  · exact digits.parse?_run year
  · rfl

theorem Decimal.date?_text (parts : DateParts decimal) : date? parts.text =
    (do return ⟨← parse? parts.signedYear, ← parse? parts.month.chars, ← parse? parts.day.chars⟩ : Option Date) := by
  rw [date?_eq_cut?, DateParts.cut?_text (digits '-' (by decide)), Option.bind_some, digits.parse?_signedYear,
    digits.parse?_run, digits.parse?_run]
  rfl

/-- Digits of other scripts are let through by the pattern, and refused as numbers. -/
theorem Matches.readGroups_eq {captures : List Char → Option (List Char × List Char × List Char)}
    (matcher : Matches decimal captures) (content : String) :
    readGroups captures content = Scalar.decode (.text content) := by
  rw [Scalar.decode_text, readGroups]
  cases found : captures content.toList with
  | none =>
    cases read : date? content.toList with
    | none => rfl
    | some date =>
      obtain ⟨parts, text, -⟩ := dated_iff.mp (date?_eq_some.mp read)
      have matched := matcher.complete (parts.widen digits.of_isDigit)
      exact absurd (text ▸ found) matched
  | some groups =>
    obtain ⟨parts, text, rfl⟩ := matcher.sound _ _ found
    rw [← text, digits.date?_text]
    rfl

end Groups

def isRun (digit : Char → Bool) (text : List Char) : Bool := !text.isEmpty && text.all digit

def captures? (decimal : Char → Bool) (text : List Char) : Option (List Char × List Char × List Char) := do
  let (negative, year, month, day) ← cut? text
  if isRun decimal year && isRun decimal month && isRun decimal day then
    some ((if negative then ['-'] else []) ++ year, month, day)
  else none

theorem isRun_iff {digit : Char → Bool} {text : List Char} :
    isRun digit text = true ↔ ∃ run : Run digit, run.chars = text := by
  simp only [isRun, Bool.and_eq_true, Bool.not_eq_true', List.isEmpty_eq_false_iff, List.all_eq_true]
  constructor
  · rintro ⟨nonempty, all⟩
    exact ⟨⟨text, nonempty, all⟩, rfl⟩
  · rintro ⟨run, rfl⟩
    exact ⟨run.nonempty, run.digits⟩

theorem takeSign_eq (text : List Char) : (if (takeSign text).1 then ['-'] else []) ++ (takeSign text).2 = text := by
  unfold takeSign
  split <;> rfl

theorem cut?_eq_some {text year month day : List Char} {negative : Bool}
    (cut : cut? text = some (negative, year, month, day)) :
    text = (if negative then ['-'] else []) ++ year ++ '-' :: (month ++ '-' :: day) := by
  unfold cut? at cut
  obtain ⟨⟨first, rest⟩, front, cut⟩ := Option.bind_eq_some_iff.mp cut
  obtain ⟨⟨second, last⟩, back, cut⟩ := Option.bind_eq_some_iff.mp cut
  cases cut
  rw [← (splitDash_eq_some.mp back).1, List.append_assoc, ← (splitDash_eq_some.mp front).1, takeSign_eq]

theorem Decimal.matches_captures? {decimal : Char → Bool} (digits : Decimal decimal) :
    Matches decimal (captures? decimal) where
  sound text groups found := by
    obtain ⟨⟨negative, years, months, days⟩, cut, found⟩ := Option.bind_eq_some_iff.mp found
    obtain ⟨runs, found⟩ := Option.ite_none_right_eq_some.mp found
    rw [Bool.and_eq_true, Bool.and_eq_true, isRun_iff, isRun_iff, isRun_iff] at runs
    obtain ⟨⟨⟨year, rfl⟩, month, rfl⟩, day, rfl⟩ := runs
    exact ⟨⟨negative, year, month, day⟩, (cut?_eq_some cut).symm, Option.some.inj found⟩
  complete parts := by
    have runs (run : Run decimal) : isRun decimal run.chars = true := isRun_iff.mpr ⟨run, rfl⟩
    simp [captures?, DateParts.cut?_text (digits '-' (by decide)), runs]

end Codec

/-- What is read of a text as a date. -/
structure Scalar.ReadsDate (content : String) : Prop where
  accepts : ∀ date : Date, decode (.text content) = .ok date ↔
    ∃ parts : DateParts Char.isDigit, parts.text = content.toList ∧ parts.Names date
  refuses : (decode (.text content) : Except CodecError Date) = .error (.invalidDate content) ↔
    ¬ ∃ parts : DateParts Char.isDigit, parts.text = content.toList ∧ parts.Fits
  unique : ∀ parts others : DateParts Char.isDigit, parts.text = content.toList → others.text = content.toList →
    parts = others
  padded : ∀ parts : DateParts Char.isDigit, parts.text = content.toList → ∀ (years months days : Nat) (date : Date),
    decode (.text (String.ofList (parts.padded years months days).text)) = .ok date ↔ decode (.text content) = .ok date
  settles : ∀ date : Date, decode (.text content) = .ok date → decode (encode date) = .ok date

namespace Scalar

theorem decode_cases (content : String) :
    (∃ date : Date, decode (.text content) = .ok date) ∨
      (decode (.text content) : Except CodecError Date) = .error (.invalidDate content) := by
  rw [decode_text]
  cases Codec.date? content.toList with
  | none => exact .inr rfl
  | some date => exact .inl ⟨date, rfl⟩

theorem decode_parts {content : String} {parts : DateParts Char.isDigit} (text : parts.text = content.toList)
    (date : Date) : decode (.text content) = .ok date ↔ parts.Names date := by
  rw [decode_eq_ok]
  constructor
  · rintro ⟨others, same, names⟩
    rwa [DateParts.text_injective rfl (text.trans same.symm)]
  · exact fun names => ⟨parts, text, names⟩

/-- A text is read as a date exactly where it is three numbers of 32 bits in ASCII digits with dashes between them, the
first with a minus sign or without, whatever matches the pattern before its numbers are read. -/
theorem decode_dates {decimal : Char → Bool}
    {captures : List Char → Option (List Char × List Char × List Char)} (digits : Codec.Decimal decimal)
    (matcher : Codec.Matches decimal captures) (content : String) :
    Codec.readGroups captures content = decode (.text content) ∧ ReadsDate content := by
  refine ⟨matcher.readGroups_eq digits content, fun date => decode_eq_ok, ?_, ?_, ?_, ?_⟩
  · constructor
    · rintro refused ⟨parts, text, fits⟩
      obtain ⟨date, names⟩ := DateParts.fits_iff.mp fits
      rw [(decode_parts text date).mpr names] at refused
      cases refused
    · intro unfit
      refine (decode_cases content).resolve_left ?_
      rintro ⟨date, read⟩
      obtain ⟨parts, text, names⟩ := decode_eq_ok.mp read
      exact unfit ⟨parts, text, DateParts.fits_iff.mpr ⟨date, names⟩⟩
  · intro parts others first second
    exact DateParts.text_injective rfl (first.trans second.symm)
  · intro parts text years months days date
    rw [decode_parts (String.toList_ofList).symm, decode_parts text, DateParts.names_padded]
  · intro date read
    obtain ⟨parts, -, names⟩ := decode_eq_ok.mp read
    have month : 0 ≤ date.month.toInt := names.month ▸ Int.natCast_nonneg _
    have day : 0 ≤ date.day.toInt := names.day ▸ Int.natCast_nonneg _
    exact faithful_date (Int32.le_iff_toInt_le.mpr month) (Int32.le_iff_toInt_le.mpr day)

/-- Arabic digits match the pattern and are refused. Zeros in front are accepted, and the lowest year. -/
theorem decode_dates_arabic :
    let decimal (c : Char) : Bool := c.isDigit || (decide ('\u0660' ≤ c) && decide (c ≤ '\u0669'))
    let arabic := "\u0662\u0660\u0660\u0668-\u0660\u0662-\u0660\u0663"
    Codec.Decimal decimal ∧ Codec.Matches decimal (Codec.captures? decimal) ∧
      Codec.captures? decimal arabic.toList =
        some ("\u0662\u0660\u0660\u0668".toList, "\u0660\u0662".toList, "\u0660\u0663".toList) ∧
      (decode (.text arabic) : Except CodecError Date) = .error (.invalidDate arabic) ∧
      decode (.text "-002147483648-3-0015") = .ok (⟨-2147483648, 3, 15⟩ : Date) := by
  intro decimal arabic
  have digits : Codec.Decimal decimal := by
    intro c small
    have outside : ¬ '\u0660' ≤ c := fun le => Nat.not_le_of_lt small (Nat.le_trans (by decide) (Char.le_def.mp le))
    simp [decimal, outside]
  have matcher := digits.matches_captures?
  have captured : Codec.captures? decimal arabic.toList =
      some ("\u0662\u0660\u0660\u0668".toList, "\u0660\u0662".toList, "\u0660\u0663".toList) := by decide
  have unread : Codec.parse? "\u0662\u0660\u0660\u0668".toList = none := by decide
  have refused : Codec.readGroups (Codec.captures? decimal) arabic = .error (.invalidDate arabic) := by
    rw [Codec.readGroups, captured]
    simp only [unread, Option.bind_eq_bind, Option.bind_none]
  obtain ⟨through, -⟩ := decode_dates digits matcher arabic
  obtain ⟨-, earliest⟩ := decode_dates digits matcher "-002147483648-3-0015"
  refine ⟨digits, matcher, captured, through.symm.trans refused, (earliest.accepts _).mpr ?_⟩
  let year : Run Char.isDigit := ⟨"002147483648".toList, by decide, List.all_eq_true.mp (by decide)⟩
  let month : Run Char.isDigit := ⟨"3".toList, by decide, List.all_eq_true.mp (by decide)⟩
  let day : Run Char.isDigit := ⟨"0015".toList, by decide, List.all_eq_true.mp (by decide)⟩
  exact ⟨⟨true, year, month, day⟩, rfl, by decide, by decide, by decide⟩

end Scalar

/-! ### Dates that are written -/

/-- A sign before the month or the day. -/
def Date.signed (date : Date) : Bool := decide (date.month < 0) || decide (date.day < 0)

theorem Date.signed_eq_false {date : Date} : date.signed = false ↔ 0 ≤ date.month ∧ 0 ≤ date.day := by
  simp [signed]

/-- A date comes back from its text unless it is signed, and no other date comes back in its place. -/
theorem Scalar.decode_dateText (date : Date) : decode (encode date) =
    if date.signed then .error (.invalidDate (String.ofList (Codec.dateText date))) else .ok date := by
  split
  next signed =>
    refine (decode_cases (String.ofList (Codec.dateText date))).resolve_left ?_
    rintro ⟨other, read⟩
    rw [Date.signed_eq_false.mpr (nonneg_of_decode read)] at signed
    cases signed
  next unsigned =>
    obtain ⟨month, day⟩ := Date.signed_eq_false.mp (Bool.eq_false_iff.mpr unsigned)
    exact faithful_date month day

end EntityStore
