import EntityStore.Value
import Mathlib.Data.List.Basic

/-! Values as statements bind them. A bound value is read back as it was, a real to its last bit. Texts are octets there.
Every text is read back from its own octets. Where octets stand for no character, the longest piece that starts one is
read as one replacement character, and that is kept from then on like any other. -/

namespace EntityStore
namespace Text.Utf8

/-! ### What follows a first octet -/

/-- So many octets at most, the first of them in a range of its own. -/
inductive Fits : Nat → UInt8 → UInt8 → List UInt8 → Prop where
  | nil {following : Nat} {low high : UInt8} : Fits following low high []
  | cons {following : Nat} {low high octet : UInt8} {rest : List UInt8} (inside : low ≤ octet ∧ octet ≤ high)
      (fits : Fits following 0x80 0xBF rest) : Fits (following + 1) low high (octet :: rest)

def collect (bits : Nat) (octets : List UInt8) : Nat :=
  octets.foldl (fun bits octet => bits * 64 + octet.toNat % 64) bits

section Finish
variable {following : Nat} {low high : UInt8} {taken rest : List UInt8}

theorem Fits.length_le (fits : Fits following low high taken) : taken.length ≤ following := by
  induction fits with
  | nil => exact Nat.zero_le _
  | cons inside fits ih => exact Nat.succ_le_succ ih

theorem Fits.of_append (fits : Fits following low high (taken ++ rest)) : Fits following low high taken := by
  induction taken generalizing following low high with
  | nil => exact .nil
  | cons octet taken ih =>
    cases fits with
    | cons inside fits => exact .cons inside (ih fits)

theorem Fits.complete (range : low ≤ high) (fits : Fits following low high taken) :
    ∃ added, Fits following low high (taken ++ added) ∧ (taken ++ added).length = following := by
  induction following generalizing low high taken with
  | zero =>
    cases fits with
    | nil => exact ⟨[], .nil, rfl⟩
  | succ following ih =>
    have further : (0x80 : UInt8) ≤ 0xBF := by decide
    cases fits with
    | nil =>
      obtain ⟨added, fits, whole⟩ := ih further .nil
      exact ⟨low :: added, .cons ⟨UInt8.le_refl low, range⟩ fits, congrArg (· + 1) whole⟩
    | cons inside fits =>
      obtain ⟨added, fits, whole⟩ := ih further fits
      exact ⟨added, .cons inside fits, congrArg (· + 1) whole⟩

theorem exists_fits (following : Nat) (low high : UInt8) (octets : List UInt8) :
    ∃ taken rest, octets = taken ++ rest ∧ Fits following low high taken ∧
      (taken.length = following ∨ ∀ next ∈ rest.head?, ¬ Fits following low high (taken ++ [next])) := by
  induction following generalizing low high octets with
  | zero => exact ⟨[], octets, rfl, .nil, .inl rfl⟩
  | succ following ih =>
    cases octets with
    | nil => exact ⟨[], [], rfl, .nil, .inr nofun⟩
    | cons octet octets =>
      by_cases inside : low ≤ octet ∧ octet ≤ high
      · obtain ⟨taken, rest, rfl, fits, stops⟩ := ih 0x80 0xBF octets
        refine ⟨octet :: taken, rest, rfl, .cons inside fits, stops.imp (congrArg (· + 1)) ?_⟩
        rintro stops next first (_ | ⟨_, more⟩)
        exact stops next first more
      · refine ⟨[], octet :: octets, rfl, .nil, .inr ?_⟩
        rintro next ⟨⟩ (_ | ⟨here, _⟩)
        exact inside here

theorem finish_whole (fits : Fits following low high taken) (whole : taken.length = following) (bits : Nat) :
    finish following low high bits (taken ++ rest) = (Char.ofNat (collect bits taken), rest) := by
  induction fits generalizing bits with
  | nil =>
    subst whole
    rfl
  | cons inside fits ih =>
    rw [List.cons_append, finish, if_pos inside]
    exact ih (Nat.succ.inj whole) _

theorem finish_short (fits : Fits following low high taken) (short : taken.length < following)
    (stops : ∀ next ∈ rest.head?, ¬ Fits following low high (taken ++ [next])) (bits : Nat) :
    finish following low high bits (taken ++ rest) = (replacement, rest) := by
  induction fits generalizing bits with
  | nil =>
    obtain ⟨following, rfl⟩ := Nat.exists_eq_succ_of_ne_zero (Nat.ne_of_gt short)
    cases rest with
    | nil => rfl
    | cons next rest =>
      rw [List.nil_append, finish, if_neg]
      intro inside
      exact stops next rfl (.cons inside .nil)
  | cons inside fits ih =>
    rw [List.cons_append, finish, if_pos inside]
    refine ih (Nat.lt_of_succ_lt_succ short) ?_ _
    intro next first more
    exact stops next first (.cons inside more)

end Finish

/-! ### Codes of characters -/

/-- The octets of the character with this number. -/
def code (n : Nat) : List Nat :=
  if n < 0x80 then [n]
  else if n < 0x800 then [0xC0 + n / 64, 0x80 + n % 64]
  else if n < 0x10000 then [0xE0 + n / 4096, 0x80 + n / 64 % 64, 0x80 + n % 64]
  else [0xF0 + n / 262144, 0x80 + n / 4096 % 64, 0x80 + n / 64 % 64, 0x80 + n % 64]

theorem map_encodeChar (c : Char) : (encodeChar c).map UInt8.toNat = code c.toNat := by
  have valid : c.toNat < 0xD800 ∨ 0xDFFF < c.toNat ∧ c.toNat < 0x110000 := c.valid
  simp only [encodeChar, code, apply_ite (List.map UInt8.toNat), List.map_cons, List.map_nil, UInt8.toNat_ofNat',
    Nat.div_one]
  split
  · rw [Nat.mod_eq_of_lt (by omega)]
  split
  · simp only [List.cons.injEq, and_true]
    omega
  split
  · simp only [List.cons.injEq, and_true]
    omega
  · simp only [List.cons.injEq, and_true]
    omega

/-- The octets after a first one are all that it promises, and with its bits they make the number. -/
structure Lead.Makes (lead : Lead) (more : List UInt8) (n : Nat) : Prop where
  fits : Fits lead.following lead.low lead.high more
  whole : more.length = lead.following
  number : collect lead.bits more = n

section Codes
variable {first : UInt8} {more rest : List UInt8} {lead : Lead} {c : Char} {n : Nat}

/-- The first octets of characters of one, two, three and four octets. Some leave out a part of the range. -/
theorem lead?_eq_some : lead? first = some lead ↔
    (first.toNat < 0x80 ∧ lead = ⟨0, 0x80, 0xBF, first.toNat⟩) ∨
    ((0xC2 ≤ first.toNat ∧ first.toNat < 0xE0) ∧ lead = ⟨1, 0x80, 0xBF, first.toNat - 0xC0⟩) ∨
    ((0xE0 ≤ first.toNat ∧ first.toNat < 0xF0) ∧ lead = ⟨2, if first.toNat = 0xE0 then 0xA0 else 0x80,
      if first.toNat = 0xED then 0x9F else 0xBF, first.toNat - 0xE0⟩) ∨
    ((0xF0 ≤ first.toNat ∧ first.toNat < 0xF5) ∧ lead = ⟨3, if first.toNat = 0xF0 then 0x90 else 0x80,
      if first.toNat = 0xF4 then 0x8F else 0xBF, first.toNat - 0xF0⟩) := by
  unfold lead?
  grind

theorem low_le_high (found : lead? first = some lead) : lead.low ≤ lead.high := by
  rcases lead?_eq_some.mp found with ⟨-, rfl⟩ | ⟨-, rfl⟩ | ⟨-, rfl⟩ | ⟨-, rfl⟩ <;> grind

theorem in_range {octet : UInt8} : (0x80 ≤ octet ∧ octet ≤ 0xBF) ↔ 0x80 ≤ octet.toNat ∧ octet.toNat ≤ 0xBF := by
  rw [UInt8.le_iff_toNat_le, UInt8.le_iff_toNat_le]
  rfl

theorem in_part {octet low high : UInt8} {early late : Prop} [Decidable early] [Decidable late]
    (starts : 0x80 ≤ low.toNat) (ends : high.toNat ≤ 0xBF) :
    ((if early then low else 0x80) ≤ octet ∧ octet ≤ if late then high else 0xBF) ↔
      (0x80 ≤ octet.toNat ∧ octet.toNat ≤ 0xBF) ∧ (early → low.toNat ≤ octet.toNat) ∧
        (late → octet.toNat ≤ high.toNat) := by
  simp only [UInt8.le_iff_toNat_le, apply_ite UInt8.toNat, UInt8.reduceToNat]
  grind

theorem makes_nil {low high : UInt8} {bits : Nat} : Lead.Makes ⟨0, low, high, bits⟩ [] n ↔ bits = n :=
  ⟨Lead.Makes.number, fun number => ⟨.nil, rfl, number⟩⟩

theorem makes_cons {following bits : Nat} {low high octet : UInt8} :
    Lead.Makes ⟨following + 1, low, high, bits⟩ (octet :: more) n ↔
      (low ≤ octet ∧ octet ≤ high) ∧ Lead.Makes ⟨following, 0x80, 0xBF, bits * 64 + octet.toNat % 64⟩ more n := by
  constructor
  · rintro ⟨_ | ⟨inside, fits⟩, whole, number⟩
    exact ⟨inside, fits, Nat.succ.inj whole, number⟩
  · rintro ⟨inside, fits, whole, number⟩
    exact ⟨.cons inside fits, congrArg (· + 1) whole, number⟩

theorem Lead.Makes.code_eq (found : lead? first = some lead) (makes : lead.Makes more n) :
    n.isValidChar ∧ code n = first.toNat :: more.map UInt8.toNat := by
  unfold Nat.isValidChar
  rcases lead?_eq_some.mp found with ⟨range, rfl⟩ | ⟨range, rfl⟩ | ⟨range, rfl⟩ | ⟨range, rfl⟩
  · obtain rfl := List.length_eq_zero_iff.mp makes.whole
    obtain rfl := makes_nil.mp makes
    refine ⟨by omega, ?_⟩
    rw [code, if_pos range, List.map_nil]
  · obtain ⟨a, rfl⟩ := List.length_eq_one_iff.mp makes.whole
    simp only [makes_cons, makes_nil, in_range] at makes
    obtain ⟨second, rfl⟩ := makes
    refine ⟨by omega, ?_⟩
    rw [code, if_neg (by omega), if_pos (by omega)]
    simp only [List.map_cons, List.map_nil, List.cons.injEq, and_true]
    omega
  · obtain ⟨a, b, rfl⟩ := List.length_eq_two.mp makes.whole
    simp only [makes_cons, makes_nil, in_part, in_range, UInt8.reduceToNat, Nat.reduceLeDiff] at makes
    obtain ⟨second, third, rfl⟩ := makes
    refine ⟨by omega, ?_⟩
    rw [code, if_neg (by omega), if_neg (by omega), if_pos (by omega)]
    simp only [List.map_cons, List.map_nil, List.cons.injEq, and_true]
    omega
  · obtain ⟨a, b, d, rfl⟩ := List.length_eq_three.mp makes.whole
    simp only [makes_cons, makes_nil, in_part, in_range, UInt8.reduceToNat, Nat.reduceLeDiff] at makes
    obtain ⟨second, third, fourth, rfl⟩ := makes
    refine ⟨by omega, ?_⟩
    rw [code, if_neg (by omega), if_neg (by omega), if_neg (by omega)]
    simp only [List.map_cons, List.map_nil, List.cons.injEq, and_true]
    omega

theorem exists_makes (valid : n.isValidChar) (same : first.toNat :: more.map UInt8.toNat = code n) :
    ∃ lead, lead? first = some lead ∧ lead.Makes more n := by
  unfold Nat.isValidChar at valid
  unfold code at same
  split at same
  · obtain ⟨here, none⟩ := List.cons.inj same
    obtain rfl := List.map_eq_nil_iff.mp none
    exact ⟨_, lead?_eq_some.mpr (.inl ⟨by omega, rfl⟩), makes_nil.mpr here⟩
  split at same
  · simp only [List.cons.injEq, List.map_eq_cons_iff, List.map_eq_nil_iff] at same
    obtain ⟨here, a, _, rfl, second, rfl⟩ := same
    refine ⟨_, lead?_eq_some.mpr (.inr (.inl ⟨by omega, rfl⟩)), ?_⟩
    simp only [makes_cons, makes_nil, in_range]
    omega
  split at same
  · simp only [List.cons.injEq, List.map_eq_cons_iff, List.map_eq_nil_iff] at same
    obtain ⟨here, a, _, rfl, second, b, _, rfl, third, rfl⟩ := same
    refine ⟨_, lead?_eq_some.mpr (.inr (.inr (.inl ⟨by omega, rfl⟩))), ?_⟩
    simp only [makes_cons, makes_nil, in_part, in_range, UInt8.reduceToNat, Nat.reduceLeDiff]
    omega
  · simp only [List.cons.injEq, List.map_eq_cons_iff, List.map_eq_nil_iff] at same
    obtain ⟨here, a, _, rfl, second, b, _, rfl, third, d, _, rfl, fourth, rfl⟩ := same
    refine ⟨_, lead?_eq_some.mpr (.inr (.inr (.inr ⟨by omega, rfl⟩))), ?_⟩
    simp only [makes_cons, makes_nil, in_part, in_range, UInt8.reduceToNat, Nat.reduceLeDiff]
    omega

theorem encodeChar_eq_cons :
    encodeChar c = first :: more ↔ ∃ lead, lead? first = some lead ∧ lead.Makes more c.toNat := by
  constructor
  · intro same
    refine exists_makes c.valid ?_
    rw [← map_encodeChar, same, List.map_cons]
  · rintro ⟨lead, found, makes⟩
    refine (List.map_inj_right fun _ _ => UInt8.toNat_inj.mp).mp ?_
    rw [map_encodeChar, (makes.code_eq found).2, List.map_cons]

theorem makes_of_encodeChar (found : lead? first = some lead) (same : encodeChar c = first :: more) :
    lead.Makes more c.toNat := by
  obtain ⟨other, led, makes⟩ := encodeChar_eq_cons.mp same
  rw [found] at led
  exact Option.some.inj led ▸ makes

theorem Lead.Makes.encodeChar (found : lead? first = some lead) (makes : lead.Makes more n) :
    encodeChar (Char.ofNat n) = first :: more := by
  have number : (Char.ofNat n).toNat = n := by
    rw [Char.ofNat, dif_pos (makes.code_eq found).1]
    rfl
  exact encodeChar_eq_cons.mpr ⟨lead, found, number.symm ▸ makes⟩

theorem encodeChar_eq (c : Char) : encodeChar c = String.utf8EncodeChar c := by
  unfold encodeChar String.utf8EncodeChar
  have number : c.val.toNat = c.toNat := rfl
  simp only [number]
  grind

/-! ### Pieces that are no character -/

/-- The octets start the code of a character, and may be all of it. -/
def Begins (octets : List UInt8) : Prop := ∃ c, octets <+: encodeChar c

theorem not_begins (found : lead? first = none) (more : List UInt8) : ¬ Begins (first :: more) := by
  rintro ⟨c, added, whole⟩
  obtain ⟨lead, led, -⟩ := encodeChar_eq_cons.mp whole.symm
  rw [found] at led
  cases led

theorem begins_cons (found : lead? first = some lead) :
    Begins (first :: more) ↔ Fits lead.following lead.low lead.high more := by
  constructor
  · rintro ⟨c, added, whole⟩
    exact (makes_of_encodeChar found whole.symm).fits.of_append
  · intro fits
    obtain ⟨added, fits, whole⟩ := fits.complete (low_le_high found)
    have makes : lead.Makes (more ++ added) _ := ⟨fits, whole, rfl⟩
    exact ⟨_, added, (makes.encodeChar found).symm⟩

/-- Octets that stand for no character: as many as start one without finishing it, or the first alone where it
starts none. -/
structure Broken (first : UInt8) (more rest : List UInt8) : Prop where
  unfinished : ∀ c, encodeChar c ≠ first :: more
  started : more = [] ∨ Begins (first :: more)
  longest : ∀ next ∈ rest.head?, ¬ Begins (first :: (more ++ [next]))

/-- Octets begin with the code of a character, or with a piece that stands for none. -/
theorem character_or_broken (first : UInt8) (octets : List UInt8) :
    (∃ c rest, first :: octets = encodeChar c ++ rest) ∨
      ∃ more rest, octets = more ++ rest ∧ Broken first more rest := by
  cases found : lead? first with
  | none =>
    refine .inr ⟨[], octets, rfl, ?_, .inl rfl, fun next _ => not_begins found _⟩
    intro c same
    exact not_begins found [] ⟨c, same ▸ List.prefix_rfl⟩
  | some lead =>
    obtain ⟨more, rest, rfl, fits, stops⟩ := exists_fits lead.following lead.low lead.high octets
    by_cases whole : more.length = lead.following
    · have makes : lead.Makes more _ := ⟨fits, whole, rfl⟩
      refine .inl ⟨Char.ofNat (collect lead.bits more), rest, ?_⟩
      rw [makes.encodeChar found, List.cons_append]
    · refine .inr ⟨more, rest, rfl, ?_, .inr ((begins_cons found).mpr fits), ?_⟩
      · intro c same
        exact whole (makes_of_encodeChar found same).whole
      · intro next here begins
        exact stops.resolve_left whole next here ((begins_cons found).mp begins)

theorem decode_encodeChar (c : Char) (rest : List UInt8) : decode (encodeChar c ++ rest) = c :: decode rest := by
  cases same : encodeChar c with
  | nil => exact absurd (encodeChar_eq c ▸ same) String.utf8EncodeChar_ne_nil
  | cons first more =>
    obtain ⟨lead, found, fits, whole, number⟩ := encodeChar_eq_cons.mp same
    rw [List.cons_append, decode, found]
    dsimp only
    rw [finish_whole fits whole, number, Char.ofNat_toNat]

theorem decode_broken (broken : Broken first more rest) :
    decode (first :: (more ++ rest)) = replacement :: decode rest := by
  rw [decode]
  cases found : lead? first with
  | none =>
    have alone : more = [] := broken.started.resolve_right (not_begins found more)
    rw [alone]
    rfl
  | some lead =>
    have fits : Fits lead.following lead.low lead.high more := by
      rcases broken.started with rfl | begins
      · exact .nil
      · exact (begins_cons found).mp begins
    have short : more.length < lead.following := by
      refine Nat.lt_of_le_of_ne fits.length_le fun whole => ?_
      have makes : lead.Makes more _ := ⟨fits, whole, rfl⟩
      exact broken.unfinished _ (makes.encodeChar found)
    have stops : ∀ next ∈ rest.head?, ¬ Fits lead.following lead.low lead.high (more ++ [next]) := by
      intro next here longer
      exact broken.longest next here ((begins_cons found).mpr longer)
    dsimp only
    rw [finish_short fits short stops]

end Codes

/-! ### What is read of octets -/

/-- The octets are codes of the characters, but for pieces that stand for none, each of which is read as a
replacement character. -/
inductive Reads : List UInt8 → List Char → Prop where
  | nil : Reads [] []
  | char {rest : List UInt8} {text : List Char} (c : Char) (reads : Reads rest text) :
      Reads (encodeChar c ++ rest) (c :: text)
  | broken {first : UInt8} {more rest : List UInt8} {text : List Char} (broken : Broken first more rest)
      (reads : Reads rest text) : Reads (first :: (more ++ rest)) (replacement :: text)

theorem exists_reads (octets : List UInt8) : ∃ text, Reads octets text := by
  induction size : octets.length using Nat.strongRecOn generalizing octets with
  | ind size ih =>
    subst size
    cases octets with
    | nil => exact ⟨[], .nil⟩
    | cons first octets =>
      rcases character_or_broken first octets with ⟨c, rest, whole⟩ | ⟨more, rest, rfl, broken⟩
      · have shorter : rest.length < (first :: octets).length := by
          have filled := List.length_pos_iff.mpr (String.utf8EncodeChar_ne_nil (c := c))
          rw [whole, List.length_append, encodeChar_eq]
          omega
        obtain ⟨text, reads⟩ := ih _ shorter rest rfl
        exact ⟨c :: text, whole ▸ .char c reads⟩
      · have shorter : rest.length < (first :: (more ++ rest)).length := by
          rw [List.length_cons, List.length_append]
          omega
        obtain ⟨text, reads⟩ := ih _ shorter rest rfl
        exact ⟨replacement :: text, .broken broken reads⟩

theorem Reads.decode_eq {octets : List UInt8} {text : List Char} (reads : Reads octets text) :
    decode octets = text := by
  induction reads with
  | nil => rw [decode]
  | char c reads ih => rw [decode_encodeChar, ih]
  | broken broken reads ih => rw [decode_broken broken, ih]

theorem decode_eq_iff {octets : List UInt8} {text : List Char} : decode octets = text ↔ Reads octets text := by
  constructor
  · rintro rfl
    obtain ⟨text, reads⟩ := exists_reads octets
    exact reads.decode_eq ▸ reads
  · exact Reads.decode_eq

theorem decode_encoded (text : List Char) : decode (encode text) = text := by
  induction text with
  | nil => rw [encode, List.flatMap_nil, decode]
  | cons c text ih => rw [encode, List.flatMap_cons, decode_encodeChar, ← encode, ih]

theorem text_encode (content : String) : text (encode content.toList) = content := by
  rw [text, decode_encoded, String.ofList_toList]

theorem toByteArray_encode (text : List Char) : (encode text).toByteArray = text.utf8Encode := by
  rw [encode, funext encodeChar_eq, List.utf8Encode]

theorem isValidUTF8_iff {octets : List UInt8} : octets.toByteArray.IsValidUTF8 ↔ ∃ text, encode text = octets := by
  constructor
  · rintro ⟨text, same⟩
    rw [← toByteArray_encode, List.toByteArray_inj] at same
    exact ⟨text, same.symm⟩
  · rintro ⟨text, rfl⟩
    exact ⟨text, toByteArray_encode text⟩

end Text.Utf8

open Text Utf8

theorem Value.value_bind (value : Value) : value.bind.value = value := by
  cases value with
  | text content => rw [bind, Cell.value, text_encode]
  | _ => rfl

/-- What is read of a text that is kept as these octets. -/
structure Cell.ReadsText (octets : List UInt8) (content : String) : Prop where
  value : (Cell.text octets).value = .text content
  again : (Value.text content).bind.value = .text content
  repaired : ∀ text, Reads octets text ↔ text = content.toList
  /-- Octets that are well formed are those of the text that is read. -/
  original : ∀ valid : octets.toByteArray.IsValidUTF8, content = String.fromUTF8 octets.toByteArray valid
  kept : (Value.text content).bind = .text octets ↔ octets.toByteArray.IsValidUTF8

theorem Cell.readsText (octets : List UInt8) : ReadsText octets (Utf8.text octets) where
  value := rfl
  again := Value.value_bind _
  repaired found := by
    rw [← decode_eq_iff, Utf8.text, String.toList_ofList, eq_comm]
  original valid := by
    obtain ⟨written, rfl⟩ := isValidUTF8_iff.mp valid
    rw [Utf8.text, decode_encoded, ← String.toByteArray_inj, String.toByteArray_ofList]
    exact (toByteArray_encode written).symm
  kept := by
    rw [isValidUTF8_iff, Value.bind, Cell.text.injEq]
    constructor
    · exact fun same => ⟨_, same⟩
    · rintro ⟨written, rfl⟩
      rw [Utf8.text, decode_encoded, String.toList_ofList]

/-- Every value is read back as it was bound. What is read of octets, well formed or not, is one text, which is the
same when it is bound and read once more. -/
theorem binding_keepsValues :
    (∀ value : Value, value.bind.value = value) ∧
      ∀ octets : List UInt8, ∃ content : String, Cell.ReadsText octets content :=
  ⟨Value.value_bind, fun octets => ⟨_, Cell.readsText octets⟩⟩

/-- A character that breaks off, an end of text and a character of four octets. -/
example : (Cell.text [0x61, 0xE2, 0x82, 0x00, 0xF0, 0x9F, 0x98, 0x80]).value = .text "a\uFFFD\x00😀" := by cbv

end EntityStore
