/-!
# Raw text: `OsStr` and `Path` as bytes

Names and paths as the system has them: any bytes, which need not be those of characters. Text has its
bytes in UTF-8 (`RawText.ofString`). Raw text is shown to a reader by reading those bytes back
(`RawText.display`, the `Display` of `Path::display`): bytes that are no character come out as one
replacement character for each longest run that begins one. Reading is by a machine that takes one byte
at a time and knows of the character it is in only what is still to come (`RawText.Unfinished`). For
text nothing is lost (`RawText.display_ofString`), so that different texts have different bytes.
-/
namespace Gadget

/-- Text as the system has it. -/
abbrev RawText := List UInt8

namespace RawText

/-- The byte that separates the names of a path. -/
def slash : UInt8 := 0x2f

/-- The byte of a dot. -/
def dot : UInt8 := 0x2e

/-- The byte that ends text where the system reads it. -/
def nul : UInt8 := 0x00

/-- The bytes of text. -/
def ofString (s : String) : RawText := s.toList.flatMap String.utf8EncodeChar

/-! ## Reading -/

/-- A character of which some bytes have come. -/
structure Unfinished where
  /-- The number that those bytes make up. -/
  value : Nat
  /-- How many bytes there are to come behind the next. -/
  missing : Nat
  /-- The least byte that can be next. -/
  least : Nat
  /-- The greatest byte that can be next. -/
  greatest : Nat
deriving DecidableEq, Repr

/-- What stands for bytes that are no character. -/
def replacement : Char := '\ufffd'

/-- What a byte between characters makes: characters that are complete, and one that is not. -/
def start (byte : Nat) : List Char × Option Unfinished :=
  if byte < 0x80 then ([Char.ofNat byte], none)
  else if byte < 0xc2 then ([replacement], none)
  else if byte < 0xe0 then ([], some ⟨byte % 0x20, 0, 0x80, 0xbf⟩)
  else if byte < 0xf0 then
    ([], some ⟨byte % 0x10, 1, if byte = 0xe0 then 0xa0 else 0x80, if byte = 0xed then 0x9f else 0xbf⟩)
  else if byte < 0xf5 then
    ([], some ⟨byte % 0x8, 2, if byte = 0xf0 then 0x90 else 0x80, if byte = 0xf4 then 0x8f else 0xbf⟩)
  else ([replacement], none)

/-- What a byte makes of a character that it may belong to. One that cannot belong to it starts anew. -/
def next (byte : Nat) : Option Unfinished → List Char × Option Unfinished
  | none => start byte
  | some u =>
    if u.least ≤ byte ∧ byte ≤ u.greatest then
      let value := u.value * 0x40 + byte % 0x40
      match u.missing with
      | 0 => ([Char.ofNat value], none)
      | missing + 1 => ([], some ⟨value, missing, 0x80, 0xbf⟩)
    else (replacement :: (start byte).1, (start byte).2)

/-- The characters that bytes make. -/
def read : Option Unfinished → RawText → List Char
  | none, [] => []
  | some _, [] => [replacement]
  | u, byte :: bytes => (next byte.toNat u).1 ++ read (next byte.toNat u).2 bytes

/-- Raw text for a reader. -/
def display (t : RawText) : String := .ofList (read none t)

/-! ## Nothing is lost of text -/

theorem read_cons (u : Option Unfinished) (byte : UInt8) (bytes : RawText) :
    read u (byte :: bytes) = (next byte.toNat u).1 ++ read (next byte.toNat u).2 bytes := by
  cases u <;> rfl

/-- A byte that completes a character. -/
theorem read_last {value least greatest byte : Nat} (hbyte : byte < 0x100) (hl : least ≤ byte)
    (hg : byte ≤ greatest) (bytes : RawText) :
    read (some ⟨value, 0, least, greatest⟩) (.ofNat byte :: bytes) =
      .ofNat (value * 0x40 + byte % 0x40) :: read none bytes := by
  rw [read_cons, UInt8.toNat_ofNat_of_lt' hbyte, next, if_pos ⟨hl, hg⟩]
  rfl

/-- A byte that takes a character one byte further. -/
theorem read_further {value missing least greatest byte : Nat} (hbyte : byte < 0x100) (hl : least ≤ byte)
    (hg : byte ≤ greatest) (bytes : RawText) :
    read (some ⟨value, missing + 1, least, greatest⟩) (.ofNat byte :: bytes) =
      read (some ⟨value * 0x40 + byte % 0x40, missing, 0x80, 0xbf⟩) bytes := by
  rw [read_cons, UInt8.toNat_ofNat_of_lt' hbyte, next, if_pos ⟨hl, hg⟩]
  rfl

/-- A byte that begins a character of more than one. -/
theorem read_first {u : Unfinished} {byte : Nat} (hbyte : byte < 0x100) (h : start byte = ([], some u))
    (bytes : RawText) : read none (.ofNat byte :: bytes) = read (some u) bytes := by
  rw [read_cons, UInt8.toNat_ofNat_of_lt' hbyte, next, h]
  rfl

/-- The bytes of a character are read as that character. -/
theorem read_utf8EncodeChar (c : Char) (bytes : RawText) :
    read none (String.utf8EncodeChar c ++ bytes) = c :: read none bytes := by
  have hvalid : c.toNat < 0xd800 ∨ 0xdfff < c.toNat ∧ c.toNat < 0x110000 := c.valid
  have hc : Char.ofNat c.toNat = c := Char.ofNat_toNat c
  have hnat : c.val.toNat = c.toNat := rfl
  unfold String.utf8EncodeChar
  simp only [hnat]
  -- one case for each length
  split
  · rw [List.singleton_append, read_cons, UInt8.toNat_ofNat_of_lt' (show c.toNat < 0x100 by omega), next,
      start, if_pos (by omega), hc]
    rfl
  split
  · have hstart : start (c.toNat / 64 % 32 + 192) =
        ([], some ⟨(c.toNat / 64 % 32 + 192) % 0x20, 0, 0x80, 0xbf⟩) := by
      rw [start, if_neg (by omega), if_neg (by omega), if_pos (by omega)]
    have hvalue : (c.toNat / 64 % 32 + 192) % 0x20 * 0x40 + (c.toNat % 64 + 128) % 0x40 = c.toNat := by
      omega
    rw [List.cons_append, read_first (by omega) hstart, List.singleton_append,
      read_last (by omega) (by omega) (by omega), hvalue, hc]
  split
  · have hstart : start (c.toNat / 4096 % 16 + 224) = ([], some ⟨(c.toNat / 4096 % 16 + 224) % 0x10, 1,
        if c.toNat / 4096 % 16 + 224 = 0xe0 then 0xa0 else 0x80,
        if c.toNat / 4096 % 16 + 224 = 0xed then 0x9f else 0xbf⟩) := by
      rw [start, if_neg (by omega), if_neg (by omega), if_neg (by omega), if_pos (by omega)]
    have hvalue : ((c.toNat / 4096 % 16 + 224) % 0x10 * 0x40 + (c.toNat / 64 % 64 + 128) % 0x40) * 0x40 +
        (c.toNat % 64 + 128) % 0x40 = c.toNat := by omega
    -- numbers below 0x800 have fewer bytes, and those of surrogates are no characters
    rw [List.cons_append, read_first (by omega) hstart, List.cons_append,
      read_further (by omega) (by split <;> omega) (by split <;> omega), List.singleton_append,
      read_last (by omega) (by omega) (by omega), hvalue, hc]
  · have hstart : start (c.toNat / 262144 % 8 + 240) = ([], some ⟨(c.toNat / 262144 % 8 + 240) % 0x8, 2,
        if c.toNat / 262144 % 8 + 240 = 0xf0 then 0x90 else 0x80,
        if c.toNat / 262144 % 8 + 240 = 0xf4 then 0x8f else 0xbf⟩) := by
      rw [start, if_neg (by omega), if_neg (by omega), if_neg (by omega), if_neg (by omega),
        if_pos (by omega)]
    have hvalue : (((c.toNat / 262144 % 8 + 240) % 0x8 * 0x40 + (c.toNat / 4096 % 64 + 128) % 0x40) * 0x40 +
        (c.toNat / 64 % 64 + 128) % 0x40) * 0x40 + (c.toNat % 64 + 128) % 0x40 = c.toNat := by omega
    rw [List.cons_append, read_first (by omega) hstart, List.cons_append,
      read_further (by omega) (by split <;> omega) (by split <;> omega), List.cons_append,
      read_further (by omega) (by omega) (by omega), List.singleton_append,
      read_last (by omega) (by omega) (by omega), hvalue, hc]

/-- **Text is shown as it is.** -/
theorem display_ofString (s : String) : display (ofString s) = s := by
  have hread : ∀ cs : List Char, read none (cs.flatMap String.utf8EncodeChar) = cs := by
    intro cs
    induction cs with
    | nil => rfl
    | cons c cs ih => rw [List.flatMap_cons, read_utf8EncodeChar, ih]
  rw [display, ofString, hread, String.ofList_toList]

theorem ofString_inj {s t : String} : ofString s = ofString t ↔ s = t := by
  refine ⟨fun h => ?_, fun h => by rw [h]⟩
  rw [← display_ofString s, h, display_ofString]

/-! ## Bytes below 0x80 -/

/-- A byte below 0x80 is in text only as the character of its number. -/
theorem mem_ofString {b : UInt8} {s : String} (hb : b.toNat < 0x80) (h : b ∈ ofString s) :
    Char.ofNat b.toNat ∈ s.toList := by
  obtain ⟨c, hc, hbc⟩ := List.mem_flatMap.1 h
  have hvalid : c.toNat < 0xd800 ∨ 0xdfff < c.toNat ∧ c.toNat < 0x110000 := c.valid
  have hnat : c.val.toNat = c.toNat := rfl
  -- every byte of a longer character is above that
  have hchar : b.toNat = c.toNat := by
    unfold String.utf8EncodeChar at hbc
    simp only [hnat] at hbc
    repeat' split at hbc
    all_goals
      simp only [List.mem_cons, List.not_mem_nil, or_false] at hbc
      rcases hbc with rfl | rfl | rfl | rfl <;>
        rw [UInt8.toNat_ofNat_of_lt' (by show _ < 256; omega)] at hb ⊢ <;> omega
  rw [hchar, Char.ofNat_toNat]
  exact hc

/-- A byte that begins no character, one that is cut off, and text behind it. -/
example : display ([0xff, 0xe6, 0x97] ++ ofString "aé") = "\ufffd\ufffdaé" := by decide

end RawText

end Gadget
