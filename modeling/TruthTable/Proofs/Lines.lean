/-
# The lines of an input

The input of a dialogue is a sequence of bytes, cut behind every newline byte.  An input that
ends with such a byte is cut off cleanly from whatever follows it (`lines_append`); otherwise
its last line goes on.

A line is decoded with the characters that end it.  They are blank, so they change neither
whether the line can be decoded (`decode?_append_encode`) nor what the program makes of its
text.  A newline byte stands for the newline character and is no part of the code of any
other character (`newline_mem_encode_iff`).
-/
import Mathlib.Data.List.Basic
import TruthTable.Console.Dialogue

namespace TruthTable

/-! ## Blanks at the end of a text -/

namespace Text

variable {cs : List Char} {c : Char}

lemma withoutBlanks_append_singleton (hc : isBlank c = true) :
    withoutBlanks (cs ++ [c]) = withoutBlanks cs := by
  simp [withoutBlanks, hc]

lemma trim_append_singleton (hc : isBlank c = true) : trim (cs ++ [c]) = trim cs := by
  -- in a text of blanks only, `c` is already dropped from the start
  by_cases hcs : cs.dropWhile isBlank = []
  · simp [trim, List.dropWhile_append, hcs, hc]
  · simp [trim, trimEnd, List.dropWhile_append, hcs, hc]

lemma trim_cons (hc : isBlank c = false) : trim (c :: cs) = c :: trimEnd cs := by
  by_cases hcs : cs.reverse.dropWhile isBlank = []
  · simp [trim, trimEnd, List.dropWhile_append, hcs, hc]
  · simp [trim, trimEnd, List.dropWhile_append, hcs, hc]

end Text

namespace Console

/-! ## Texts as bytes -/

/-- The bytes of a text. -/
def encode (text : String) : List UInt8 := text.toByteArray.data.toList

lemma encode_append (s t : String) : encode (s ++ t) = encode s ++ encode t := by
  simp [encode]

lemma toArray_encode (text : String) :
    (⟨(encode text).toArray⟩ : ByteArray) = text.toByteArray := by
  simp [encode]

lemma encode_eq_flatMap (text : String) :
    encode text = text.toList.flatMap String.utf8EncodeChar := by
  rw [encode, ← String.utf8Encode_toList, List.utf8Encode, List.data_toByteArray]

lemma decode?_eq_some_iff {line : List UInt8} {text : String} :
    decode? line = some text ↔ line = encode text := by
  rw [decode?, String.fromUTF8?]
  constructor
  · intro h
    split at h
    · obtain rfl := Option.some.inj h
      simp [encode, String.fromUTF8]
    · cases h
  · rintro rfl
    simp [toArray_encode, text.isValidUTF8, String.fromUTF8]

/-- Valid bytes before valid bytes.  The cut is at a character, since the second part begins
with one. -/
lemma isValidUTF8_of_append {a b : ByteArray} (hab : (a ++ b).IsValidUTF8)
    (hb : b.IsValidUTF8) : a.IsValidUTF8 := by
  have hcut : String.Pos.Raw.IsValid (String.fromUTF8 (a ++ b) hab) ⟨a.size⟩ := by
    rw [String.Pos.Raw.isValid_iff_isValidUTF8_extract_utf8ByteSize]
    constructor
    · simp [String.fromUTF8, String.Pos.Raw.le_iff]
    · simpa [String.fromUTF8, String.utf8ByteSize, ByteArray.extract_append_eq_right] using hb
  simpa [String.fromUTF8, ByteArray.extract_append_eq_left] using hcut.isValidUTF8_extract_zero

/-- What comes before the bytes of a text is decoded by itself. -/
lemma decode?_append_encode (line : List UInt8) (text : String) :
    decode? (line ++ encode text) = (decode? line).map (· ++ text) := by
  ext whole
  simp only [Option.map_eq_some_iff, decode?_eq_some_iff]
  constructor
  · intro h
    have hbytes : (⟨line.toArray⟩ : ByteArray) ++ text.toByteArray = whole.toByteArray := by
      rw [← toArray_encode whole, ← h]
      ext1
      simp [encode]
    have hline : (⟨line.toArray⟩ : ByteArray).IsValidUTF8 :=
      isValidUTF8_of_append (hbytes ▸ whole.isValidUTF8) text.isValidUTF8
    refine ⟨String.fromUTF8 ⟨line.toArray⟩ hline, by simp [encode, String.fromUTF8], ?_⟩
    rw [← String.toByteArray_inj, String.toByteArray_append, ← hbytes]
    rfl
  · rintro ⟨before, rfl, rfl⟩
    rw [encode_append]

lemma eq_of_newline_mem_utf8EncodeChar {c : Char} (h : newline ∈ String.utf8EncodeChar c) :
    c = '\n' := by
  have hbyte : ∀ n : ℕ, newline = UInt8.ofNat n ↔ 10 = n % 256 := by
    intro n
    rw [← UInt8.toNat_inj, UInt8.toNat_ofNat']
    rfl
  rw [String.utf8EncodeChar.eq_1] at h
  split_ifs at h with hone <;> simp only [List.mem_cons, List.not_mem_nil, or_false, hbyte] at h
  · apply Char.toNat_inj.1
    show c.val.toNat = 10
    omega
  -- a character of several bytes has none below 128
  all_goals omega

lemma newline_mem_encode_iff {text : String} : newline ∈ encode text ↔ '\n' ∈ text.toList := by
  rw [encode_eq_flatMap, List.mem_flatMap]
  constructor
  · rintro ⟨c, hc, hnewline⟩
    rwa [← eq_of_newline_mem_utf8EncodeChar hnewline]
  · exact fun h => ⟨'\n', h, by decide⟩

/-! ## Cutting an input into lines -/

section

variable {body rest : List UInt8}

lemma lines_append_newline_cons (hbody : newline ∉ body) :
    lines (body ++ newline :: rest) = (body ++ [newline]) :: lines rest := by
  induction body with
  | nil => simp [lines, consByte]
  | cons b body ih =>
    rw [List.mem_cons, not_or] at hbody
    obtain ⟨hb, hbody⟩ := hbody
    have hrest : lines (body ++ newline :: rest) = (body ++ [newline]) :: lines rest := ih hbody
    show consByte b (lines (body ++ newline :: rest)) = _
    rw [hrest, consByte, if_neg (Ne.symm hb)]
    rfl

lemma lines_of_not_mem (hbody : newline ∉ body) (hne : body ≠ []) : lines body = [body] := by
  induction body with
  | nil => contradiction
  | cons b body ih =>
    rw [List.mem_cons, not_or] at hbody
    obtain ⟨hb, hbody⟩ := hbody
    show consByte b (lines body) = _
    cases body with
    | nil => exact if_neg (Ne.symm hb)
    | cons b' body => rw [ih hbody (by simp), consByte, if_neg (Ne.symm hb)]

end

/-- Every input is empty, or an unfinished line, or a line that an input follows. -/
@[elab_as_elim]
lemma lines_induction {motive : List UInt8 → Prop} (nil : motive [])
    (unfinished : ∀ body, newline ∉ body → body ≠ [] → motive body)
    (line : ∀ body rest, newline ∉ body → motive rest → motive (body ++ newline :: rest))
    (input : List UInt8) : motive input := by
  suffices h : ∀ body, newline ∉ body → motive (body ++ input) from h [] (by simp)
  induction input with
  | nil =>
    intro body hbody
    rw [List.append_nil]
    by_cases hne : body = []
    · exact hne ▸ nil
    · exact unfinished body hbody hne
  | cons b rest ih =>
    intro body hbody
    by_cases hb : b = newline
    · subst hb
      exact line body rest hbody (ih [] (by simp))
    · have hlonger : newline ∉ body ++ [b] := by simp [hbody, Ne.symm hb]
      simpa using ih (body ++ [b]) hlonger

/-- Whether the last line of an input, if there is one, is finished. -/
def Finished (input : List UInt8) : Prop := input = [] ∨ input.getLast? = some newline

lemma finished_append_newline_cons {body rest : List UInt8} :
    Finished (body ++ newline :: rest) ↔ Finished rest := by
  cases rest with
  | nil => simp [Finished]
  | cons b rest => simp [Finished, List.getLast?_append, List.getLast?_cons_cons]

lemma lines_append {x : List UInt8} (hx : Finished x) (y : List UInt8) :
    lines (x ++ y) = lines x ++ lines y := by
  induction x using lines_induction with
  | nil => rfl
  | unfinished body hbody hne =>
    have hlast : body.getLast? = some newline := hx.resolve_left hne
    exact absurd (List.mem_of_getLast? hlast) hbody
  | line body rest hbody ih =>
    rw [List.append_assoc, List.cons_append, lines_append_newline_cons hbody,
      ih (finished_append_newline_cons.1 hx), lines_append_newline_cons hbody, List.cons_append]

example : lines (encode "A\n\r\nB") = ["A\n", "\r\n", "B"].map encode := by decide

/-! ## Lines that are given as texts -/

lemma encode_newline : encode "\n" = [newline] := by decide

lemma finished_encode (text : String) : Finished (encode (text ++ "\n")) := by
  simp [Finished, encode_append, encode_newline]

lemma lines_encode_append {text : String} (htext : '\n' ∉ text.toList) (rest : List UInt8) :
    lines (encode (text ++ "\n") ++ rest) = encode (text ++ "\n") :: lines rest := by
  have hbody : newline ∉ encode text := mt newline_mem_encode_iff.1 htext
  rw [encode_append, encode_newline, List.append_assoc, List.singleton_append,
    lines_append_newline_cons hbody]

/-! ## Carriage returns -/

/-- The byte of a carriage return. -/
def carriageReturn : UInt8 := 13

/-- An input with a carriage return before every newline byte. -/
def withCarriageReturns (input : List UInt8) : List UInt8 :=
  input.flatMap fun b => if b = newline then [carriageReturn, newline] else [b]

section

variable {body rest : List UInt8}

lemma withCarriageReturns_of_not_mem (hbody : newline ∉ body) :
    withCarriageReturns body = body := by
  have hsame : ∀ b ∈ body, (if b = newline then [carriageReturn, newline] else [b]) = [b] := by
    intro b hb
    apply if_neg
    rintro rfl
    exact hbody hb
  rw [withCarriageReturns, List.flatMap_congr hsame, List.flatMap_singleton']

lemma withCarriageReturns_append_newline_cons (hbody : newline ∉ body) :
    withCarriageReturns (body ++ newline :: rest) =
      body ++ [carriageReturn] ++ newline :: withCarriageReturns rest := by
  have h := withCarriageReturns_of_not_mem hbody
  rw [withCarriageReturns] at h
  rw [withCarriageReturns, List.flatMap_append, h, List.flatMap_cons, if_pos rfl]
  simp [withCarriageReturns]

end

end Console

end TruthTable
