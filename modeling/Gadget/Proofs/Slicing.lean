import Gadget.Transfer.Completion
import Mathlib.Data.List.Basic
/-!
# What a result makes of a buffer's bytes

Three widths meet in a completion: a signed 64 bit result, an error number of 32 signed bits, and offsets
of machine words. Below zero a result is an error number, always a positive one, whose negation fits as well
(`Errno.ofResult_of_neg`). From zero upward it is a byte count, and the place where the transferred bytes end
is the exact sum of offset and count, cut off at the end of the buffer (`Completion.stop_of_nonneg`): the
addition stays at the largest word where it would pass it, and no buffer is longer than that.
`Completion.slicing_total` puts the two together.
-/
namespace Gadget

/-! ## Error numbers of results -/

namespace Errno

variable {result : Int64} {e : Errno}

theorem ofResult_of_nonneg (h : 0 ≤ result) : ofResult result = none := by
  rw [ofResult, if_pos h]

theorem toInt_lt_zero (h : result < 0) : result.toInt < 0 := by
  simpa [Int64.lt_iff_toInt_lt] using h

/-- The number of a negative result is its magnitude if that is a signed 32 bit number, and `overflow`
otherwise. -/
theorem ofResult_of_neg (h : result < 0) : ∃ e, ofResult result = some e ∧
    e.code.toInt = if -result.toInt ≤ Limits.int32 then -result.toInt else overflow.code.toInt := by
  have hneg := toInt_lt_zero h
  have hnot : ¬ 0 ≤ result := Int64.not_le.2 h
  have habs : (result.toInt.natAbs : Int) = -result.toInt := by omega
  by_cases hfits : result.toInt.natAbs ≤ Limits.int32
  · refine ⟨⟨.ofNat result.toInt.natAbs⟩, by rw [ofResult, if_neg hnot]; simp only [if_pos hfits], ?_⟩
    rw [if_pos (by omega), ← habs]
    exact Int32.toInt_ofNat_of_lt (by simp only [Limits.int32] at hfits; omega)
  · refine ⟨overflow, by rw [ofResult, if_neg hnot]; simp only [if_neg hfits], ?_⟩
    rw [if_neg (by omega)]

/-- A number of a result is positive and a signed 32 bit number. -/
theorem ofResult_range (h : ofResult result = some e) :
    1 ≤ e.code.toInt ∧ e.code.toInt ≤ Limits.int32 := by
  have hneg : result < 0 := by
    rw [← Int64.not_le]
    intro hr
    rw [ofResult_of_nonneg hr] at h
    cases h
  have hlt := toInt_lt_zero hneg
  obtain ⟨e', he, hcode⟩ := ofResult_of_neg hneg
  obtain rfl : e' = e := Option.some.inj (he.symm.trans h)
  rw [hcode]
  split
  · exact ⟨by omega, by assumption⟩
  · decide

/-- Negating a positive number loses nothing. -/
theorem toInt_negated (h : 1 ≤ e.code.toInt ∧ e.code.toInt ≤ Limits.int32) :
    e.negated.toInt = -e.code.toInt := by
  obtain ⟨hpos, hle⟩ := h
  simp only [Limits.int32] at hle
  rw [negated, Int32.toInt_neg, Int.bmod_eq_of_le (by omega) (by omega)]

end Errno

/-- Below a length that is a machine word, saturation is not seen. -/
theorem Limits.min_saturatingAdd {a b length : Nat} (h : length ≤ word) :
    min (saturatingAdd a b) length = min (a + b) length := by
  simp only [saturatingAdd]
  omega

/-- The bytes between two places of a buffer, if the places are in order and in the buffer. -/
def slice? (start stop : Nat) (data : List UInt8) : Option (List UInt8) :=
  if start ≤ stop ∧ stop ≤ data.length then some ((data.take stop).drop start) else none

theorem slice?_eq_some {start stop : Nat} {data : List UInt8} (h : start ≤ stop) (hs : stop ≤ data.length) :
    slice? start stop data = some (data.extract start stop) := by
  rw [slice?, if_pos ⟨h, hs⟩, List.drop_take]

namespace Completion

variable {c : Completion}

/-! ## Where the bytes end -/

theorem errno_of_nonneg (h : 0 ≤ c.result) : c.errno = none := Errno.ofResult_of_nonneg h

theorem isError_iff : c.isError ↔ c.result < 0 := by
  rw [isError, decide_eq_true_eq]

theorem stop_of_errno {e : Errno} (h : c.errno = some e) : c.stop = .error e := by
  rw [stop, h]

theorem stop_of_nonneg (h : 0 ≤ c.result) (hlen : c.data.length ≤ Limits.word) :
    c.stop = .ok (min (c.offset + c.result.toInt.toNat) c.data.length) := by
  rw [stop, errno_of_nonneg h]
  simp only [Limits.min_saturatingAdd hlen]

/-- The bytes never end behind the buffer. -/
theorem stop_le {stop : Nat} (h : c.stop = .ok stop) : stop ≤ c.data.length := by
  rw [Completion.stop] at h
  split at h
  · cases h
  · cases h
    exact Nat.min_le_right _ _

/-! ## The bytes -/

/-- The payload is the slice from the offset on, or nothing where there is no such slice. -/
theorem payload_eq_slice (c : Completion) :
    c.payload = c.stop.map fun stop => (slice? c.offset stop c.data).getD [] := by
  rw [payload]
  cases hs : c.stop with
  | error e => rfl
  | ok stop =>
    have hle := stop_le hs
    simp only [Except.map, slice?]
    by_cases ho : c.offset ≤ stop
    · rw [if_pos ⟨ho, hle⟩, Option.getD_some]
    · rw [if_neg (fun h => ho h.1), Option.getD_none, List.drop_eq_nil_of_le (by simp; omega)]

/-- The frame is the slice from the front on, which there always is. -/
theorem frame_eq_slice (c : Completion) :
    c.frame = c.stop.map fun stop => (slice? 0 stop c.data).getD [] := by
  rw [frame]
  cases hs : c.stop with
  | error e => rfl
  | ok stop => simp only [Except.map, slice?, Nat.zero_le, stop_le hs, and_self, if_true, Option.getD_some,
      List.drop_zero]

theorem payload_of_stop {stop : Nat} (h : c.stop = .ok stop) :
    c.payload = .ok (c.data.extract c.offset stop) := by
  rw [payload, h, Except.map, List.drop_take]

theorem frame_of_stop {stop : Nat} (h : c.stop = .ok stop) : c.frame = .ok (c.data.take stop) := by
  rw [frame, h, Except.map]

/-- The header, as far as the buffer goes, and what follows it up to a place are all bytes before that place. -/
theorem header_append_extract {stop : Nat} (h : min c.offset c.data.length ≤ stop) :
    c.data.take (min c.offset c.data.length) ++ c.data.extract c.offset stop = c.data.take stop := by
  rcases Nat.le_total c.offset c.data.length with ho | ho
  · rw [Nat.min_eq_left ho] at h ⊢
    have hhead : c.data.take c.offset = (c.data.take stop).take c.offset := by
      rw [List.take_take, Nat.min_eq_left h]
    rw [hhead, List.extract, ← List.drop_take, List.take_append_drop]
  · rw [Nat.min_eq_right ho] at h ⊢
    rw [List.extract, List.drop_eq_nil_of_le ho, List.take_nil, List.append_nil, List.take_length,
      List.take_of_length_le h]

/-! ## All results -/

/-- **Every result makes something of every buffer**, be the offset in the buffer or behind it. A negative
result is an error, which payload and frame report alike: its number is positive and a signed 32 bit number,
the result's magnitude if that is one and `overflow` otherwise, and it can be negated. Any other result is
exactly a byte count `n`; the payload is what lies between the offset and the offset plus `n`, as far as the
buffer goes, and the frame is the header and the payload. Both are slices inside the buffer, unless the
offset is behind it, which leaves no payload. -/
theorem slicing_total (c : Completion) (hlen : c.data.length ≤ Limits.word) :
    (c.result < 0 → c.isError ∧ ∃ e : Errno,
      c.errno = some e ∧ c.payload = .error e ∧ c.frame = .error e ∧
      (1 ≤ e.code.toInt ∧ e.code.toInt ≤ Limits.int32) ∧
      e.code.toInt = (if -c.result.toInt ≤ Limits.int32 then -c.result.toInt else Errno.overflow.code.toInt) ∧
      e.negated.toInt = -e.code.toInt) ∧
    (0 ≤ c.result → ¬ c.isError ∧ c.errno = none ∧ ∃ n : Nat,
      (n : Int) = c.result.toInt ∧ n ≤ Limits.word ∧ Limits.saturatingAdd c.offset n ≤ Limits.word ∧
      let stop := min (c.offset + n) c.data.length
      let payload := c.data.extract c.offset stop
      let frame := c.data.take (min c.offset c.data.length) ++ payload
      c.stop = .ok stop ∧ c.payload = .ok payload ∧ c.frame = .ok frame ∧
      slice? 0 stop c.data = some frame ∧
      (c.offset ≤ c.data.length → slice? c.offset stop c.data = some payload) ∧
      (c.data.length ≤ c.offset → payload = [])) ∧
    c.payload = (c.stop.map fun stop => (slice? c.offset stop c.data).getD []) ∧
    c.frame = (c.stop.map fun stop => (slice? 0 stop c.data).getD []) := by
  refine ⟨fun hneg => ?_, fun hr => ?_, payload_eq_slice c, frame_eq_slice c⟩
  · obtain ⟨e, he, hcode⟩ := Errno.ofResult_of_neg hneg
    have hrange := Errno.ofResult_range he
    have hstop : c.stop = .error e := stop_of_errno he
    exact ⟨isError_iff.2 hneg, e, he, by rw [payload, hstop]; rfl, by rw [frame, hstop]; rfl, hrange, hcode,
      Errno.toInt_negated hrange⟩
  · have hnonneg : 0 ≤ c.result.toInt := by simpa [Int64.le_iff_toInt_le] using hr
    have hlt := c.result.toInt_lt
    have hstop := stop_of_nonneg hr hlen
    have hle := stop_le hstop
    have hhead : min c.offset c.data.length ≤ min (c.offset + c.result.toInt.toNat) c.data.length := by omega
    have hbytes := header_append_extract hhead
    refine ⟨fun h => Int64.not_lt.2 hr (isError_iff.1 h), errno_of_nonneg hr, c.result.toInt.toNat,
      Int.toNat_of_nonneg hnonneg, by simp only [Limits.word]; omega, Nat.min_le_right _ _, hstop,
      payload_of_stop hstop, ?_, ?_, fun ho => slice?_eq_some (by omega) hle, fun ho => ?_⟩
    · rw [hbytes, frame_of_stop hstop]
    · rw [hbytes, slice?_eq_some (Nat.zero_le _) hle, List.extract, List.drop_zero, Nat.sub_zero]
    · rw [List.extract, List.drop_eq_nil_of_le ho, List.take_nil]

/-- The lowest result has no magnitude of 32 bits, and the highest one passes the largest word when it is
added to an offset that is far behind the buffer. -/
theorem extreme_results_sliced : ∃ lowest highest : Completion,
    lowest.result = Int64.minValue ∧ lowest.data.length ≤ Limits.word ∧
      (∃ e, e.code.toInt = 75 ∧ lowest.payload = .error e ∧ lowest.frame = .error e ∧ e.negated.toInt = -75) ∧
      highest.result = Int64.maxValue ∧ highest.offset = Limits.word ∧ highest.data.length ≤ Limits.word ∧
      highest.payload = .ok [] ∧ highest.frame = .ok [1, 2, 3] := by
  let lowest : Completion := ⟨⟨0, 0⟩, 7, Int64.minValue, 2, [1, 2, 3]⟩
  let highest : Completion := ⟨⟨0, 0⟩, 7, Int64.maxValue, Limits.word, [1, 2, 3]⟩
  have hlow : lowest.data.length ≤ Limits.word := by decide
  have hhigh : highest.data.length ≤ Limits.word := by decide
  obtain ⟨-, e, -, hpayload, hframe, -, hcode, hnegated⟩ := (slicing_total lowest hlow).1 (by decide)
  have h75 : e.code.toInt = 75 := by rw [hcode]; decide
  obtain ⟨-, -, n, -, -, -, -, hp, hf, -, -, hempty⟩ := (slicing_total highest hhigh).2.1 (by decide)
  have hnone := hempty (by decide)
  rw [hnone] at hp hf
  exact ⟨lowest, highest, rfl, hlow, ⟨e, h75, hpayload, hframe, by rw [hnegated, h75]⟩, rfl, rfl, hhigh, hp,
    by rw [hf]; rfl⟩

end Completion

end Gadget
