import Threadbook.Fallible
import Threadbook.ImageStructure

/-!
# Which containers are accepted

* **No accepted image is the beginning of another** of its format: whatever is appended, the
  longer file is refused (`image_not_extended`).
-/

namespace Threadbook.ReceiptImage

open List

variable {bytes extra value : List UInt8} {offset size : ℕ}

/-! ## Reading on from a place -/

theorem readBytes_eq_ok :
    readBytes bytes offset size = .ok value ↔
      offset + size ≤ bytes.length ∧ (bytes.drop offset).take size = value := by
  by_cases hfits : offset + size ≤ bytes.length <;> simp [readBytes, slice, hfits]

theorem readBytes_append (h : readBytes bytes offset size = .ok value) (extra : List UInt8) :
    readBytes (bytes ++ extra) offset size = .ok value := by
  obtain ⟨hfits, rfl⟩ := readBytes_eq_ok.mp h
  rw [readBytes_eq_ok, drop_append_of_le_length (by omega),
    take_append_of_le_length (by simp; omega)]
  exact ⟨by simp; omega, rfl⟩

theorem readNumber_append {number : List UInt8 → ℕ} {n : ℕ}
    (h : (readBytes bytes offset size).map number = .ok n) (extra : List UInt8) :
    (readBytes (bytes ++ extra) offset size).map number = .ok n := by
  cases hread : readBytes bytes offset size with
  | error code => simp [hread, Except.map] at h
  | ok value => rwa [readBytes_append hread, ← hread]

theorem readPngChunk_append {chunk : PngChunk} (h : readPngChunk bytes offset = .ok chunk)
    (extra : List UInt8) : readPngChunk (bytes ++ extra) offset = .ok chunk := by
  obtain ⟨length, hlength, h⟩ := check_bind_eq_ok.mp h
  obtain ⟨hfits, h⟩ := check_unless_eq_ok.mp h
  obtain ⟨kind, hkind, h⟩ := check_bind_eq_ok.mp h
  obtain ⟨covered, hcovered, h⟩ := check_bind_eq_ok.mp h
  obtain ⟨crc, hcrc, h⟩ := check_bind_eq_ok.mp h
  apply check_bind_eq_ok.mpr ⟨length, readNumber_append hlength extra, _⟩
  apply check_unless_eq_ok.mpr ⟨by simp; omega, _⟩
  apply check_bind_eq_ok.mpr ⟨kind, readBytes_append hkind extra, _⟩
  apply check_bind_eq_ok.mpr ⟨covered, readBytes_append hcovered extra, _⟩
  exact check_bind_eq_ok.mpr ⟨crc, readNumber_append hcrc extra, h⟩

theorem pngFrom_extended (hextra : extra ≠ []) {budget chunks : ℕ} {sawIdat idatEnded : Bool}
    (h : pngFrom bytes budget offset chunks sawIdat idatEnded = .ok ()) (budget' : ℕ) :
    pngFrom (bytes ++ extra) budget' offset chunks sawIdat idatEnded ≠ .ok () := by
  induction budget generalizing offset chunks sawIdat idatEnded budget' with
  | zero =>
    rw [pngFrom] at h
    split at h <;> cases h
  | succ budget ih =>
    rcases budget' with _ | budget'
    · rw [pngFrom]
      split <;> simp
    · rw [pngFrom, check_unless_eq_ok] at h
      obtain ⟨hplace, h⟩ := h
      split at h
      · cases h
      · next chunk hchunk =>
        have hlonger : ¬ ((bytes ++ extra).length ≤ offset ∨ 4096 < chunks + 1) := by
          simp
          omega
        rw [pngFrom, if_neg hlonger, readPngChunk_append hchunk]
        simp only [check_unless_eq_ok] at h ⊢
        obtain ⟨hheader, hreserved, h⟩ := h
        rw [if_neg hheader, if_neg hreserved]
        split at h
        · next hidat =>
          rw [if_pos hidat]
          split at h
          · cases h
          · next hended =>
            rw [if_neg hended]
            exact ih h budget'
        · next hidat =>
          rw [if_neg hidat]
          split at h
          · next hend =>
            -- the trailer ends with the file, and the longer file goes on
            rw [if_pos hend]
            obtain ⟨⟨-, -, hstop⟩, -⟩ := check_when_eq_ok.mp h
            have hlength : 0 < extra.length := length_pos_iff.mpr hextra
            simp
            omega
          · next hend =>
            rw [if_neg hend]
            exact ih h budget'

/-! ## JPEG -/

theorem getElem?_extended {byte : UInt8} (h : bytes[offset]? = some byte) (extra : List UInt8) :
    (bytes ++ extra)[offset]? = some byte := by
  obtain ⟨hlt, -⟩ := List.getElem?_eq_some_iff.mp h
  rwa [getElem?_append_left hlt]

theorem skipFill_append {marker : UInt8} (h : bytes[skipFill bytes offset]? = some marker)
    (extra : List UInt8) : skipFill (bytes ++ extra) offset = skipFill bytes offset := by
  obtain ⟨hlt, -⟩ := List.getElem?_eq_some_iff.mp h
  rw [skipFill] at hlt
  rw [skipFill, drop_append_of_le_length (by omega), takeWhile_append, if_neg, skipFill]
  rw [length_drop]
  omega

theorem jpegSegmentEnd_append {marker : UInt8} {stop : ℕ}
    (h : jpegSegmentEnd bytes offset marker = .ok stop) (extra : List UInt8) :
    jpegSegmentEnd (bytes ++ extra) offset marker = .ok stop := by
  obtain ⟨length, hlength, h⟩ := check_bind_eq_ok.mp h
  obtain ⟨hfits, h⟩ := check_unless_eq_ok.mp h
  have hslice : slice (bytes ++ extra) (offset + 2) (offset + length) =
      slice bytes (offset + 2) (offset + length) := by
    rw [slice, slice, if_pos (by simp; omega), if_pos (by omega),
      drop_append_of_le_length (by omega),
      take_append_of_le_length (by simp; omega)]
  apply check_bind_eq_ok.mpr ⟨length, readNumber_append hlength extra, _⟩
  apply check_unless_eq_ok.mpr ⟨by simp; omega, _⟩
  rwa [hslice]

theorem jpegFrom_extended (hextra : extra ≠ []) {budget : ℕ} {mode : JpegMode}
    {sawSof sawSos : Bool} (h : jpegFrom bytes budget mode offset sawSof sawSos = .ok ())
    (budget' : ℕ) : jpegFrom (bytes ++ extra) budget' mode offset sawSof sawSos ≠ .ok () := by
  induction budget generalizing mode offset sawSof sawSos budget' with
  | zero =>
    cases mode with
    | segment =>
      rw [jpegFrom] at h
      split at h <;> cases h
    | scan => cases h
  | succ budget ih =>
    rcases budget' with _ | budget'
    · cases mode with
      | segment =>
        rw [jpegFrom]
        split <;> simp
      | scan => simp [jpegFrom]
    cases mode with
    | segment =>
      rw [jpegFrom] at h
      split at h
      · next hplace =>
        have hplace' : offset < (bytes ++ extra).length ∧ (bytes ++ extra)[offset]? = some 0xff :=
          ⟨by simp; omega, getElem?_extended hplace.2 extra⟩
        rw [jpegFrom, if_pos hplace']
        simp only at h ⊢
        split at h
        · cases h
        · next marker hmarker =>
          rw [skipFill_append hmarker, getElem?_extended hmarker]
          simp only
          split at h
          · next hend =>
            -- the end marker ends the file, and the longer file goes on
            rw [if_pos hend]
            obtain ⟨⟨-, -, hstop⟩, -⟩ := check_when_eq_ok.mp h
            have hlength : 0 < extra.length := length_pos_iff.mpr hextra
            simp
            omega
          · next hend =>
            rw [if_neg hend]
            obtain ⟨hreserved, h⟩ := check_unless_eq_ok.mp h
            rw [if_neg hreserved]
            split at h
            · cases h
            · next stop hstop =>
              rw [jpegSegmentEnd_append hstop]
              simp only
              obtain ⟨hsof, h⟩ := check_unless_eq_ok.mp h
              rw [if_neg hsof]
              split at h
              · next hsos =>
                rw [if_pos hsos]
                exact ih h budget'
              · next hsos =>
                rw [if_neg hsos]
                exact ih h budget'
      · cases h
    | scan =>
      rw [jpegFrom] at h
      split at h
      · cases h
      · next byte hbyte =>
        rw [jpegFrom, getElem?_extended hbyte]
        simp only
        split at h
        · next hne =>
          rw [if_pos hne]
          exact ih h budget'
        · next hne =>
          rw [if_neg hne]
          simp only at h
          split at h
          · cases h
          · next marker hmarker =>
            rw [skipFill_append hmarker, getElem?_extended hmarker]
            simp only
            split at h
            · next hrestart =>
              rw [if_pos hrestart]
              exact ih h budget'
            · next hrestart =>
              rw [if_neg hrestart]
              exact ih h budget'

/-! ## All formats -/

/-- **No accepted image is the beginning of another**: an image with anything behind it is refused,
however much time there is to look at it. -/
theorem image_not_extended {format : ImageFormat} {budget : ℕ}
    (h : validateImageStructure bytes format budget = .ok ()) (hextra : extra ≠ [])
    (budget' : ℕ) : validateImageStructure (bytes ++ extra) format budget' ≠ .ok () := by
  intro hlonger
  cases format with
  | jpeg =>
    obtain ⟨-, h⟩ := check_unless_eq_ok.mp h
    obtain ⟨-, hlonger⟩ := check_unless_eq_ok.mp hlonger
    exact jpegFrom_extended hextra h budget' hlonger
  | png =>
    obtain ⟨-, h⟩ := check_unless_eq_ok.mp h
    obtain ⟨-, hlonger⟩ := check_unless_eq_ok.mp hlonger
    exact pngFrom_extended hextra h budget' hlonger
  | webP =>
    have hsize : ∀ {image budget}, validateWebp image budget = .ok () →
        ∃ size, readLeU32 image 4 = .ok size ∧ size + 8 = image.length := by
      intro image budget h
      rw [validateWebp] at h
      split at h
      · split at h
        · next size hread => exact ⟨size, hread, not_not.mp (check_unless_eq_ok.mp h).1⟩
        · cases h
      · cases h
    obtain ⟨size, hread, hlength⟩ := hsize h
    obtain ⟨size', hread', hlength'⟩ := hsize hlonger
    have hsame := (readNumber_append hread extra).symm.trans hread'
    cases hsame
    have hpos : 0 < extra.length := length_pos_iff.mpr hextra
    rw [length_append] at hlength'
    omega

/-- A frame and a scan without any data. -/
def smallJpeg : List UInt8 := [0xff, 0xd8, 0xff, 0xc0, 0, 2, 0xff, 0xda, 0, 2, 0xff, 0xd9]

theorem smallJpeg_not_extended :
    validateImageStructure (smallJpeg ++ [0x0a]) .jpeg 100 ≠ .ok () :=
  image_not_extended (show validateImageStructure smallJpeg .jpeg 4 = .ok () from rfl) (by simp) 100

end Threadbook.ReceiptImage
