import Mathlib.Data.List.Basic
import DatastoreAccess.Proofs.Text.Encoding
import DatastoreAccess.Proofs.Text.Split
import DatastoreAccess.Request.Credentials
/-!
# Proofs.Request.Fields — texts in header fields

A text of visible ASCII, spaces and tabs comes out of a header field as it went in (`text?_of_readable`), and what comes
out of a field is what went in (`value_of_text?`).  White space around it does not count for a service key
(`serviceKey_eq_some`).
-/
namespace DatastoreAccess

/-! ## Texts in fields -/

namespace Text

/-- White space neither begins nor ends a text. -/
structure Unpadded (cs : List Char) : Prop where
  starts : ∀ c, cs.head? = some c → isBlank c = false
  ends : ∀ c, cs.getLast? = some c → isBlank c = false

theorem TrimsTo.unpadded {l core : List Char} (h : TrimsTo l core) : Unpadded core := ⟨h.starts, h.ends⟩

theorem trimsTo_self_iff {cs : List Char} : TrimsTo cs cs ↔ Unpadded cs :=
  ⟨TrimsTo.unpadded, fun h => ⟨⟨[], [], by simp, nofun, nofun⟩, h.starts, h.ends⟩⟩

/-- Visible ASCII, spaces and tabs. -/
def Readable (cs : List Char) : Prop := ∀ c ∈ cs, (0x20 ≤ c.toNat ∧ c.toNat < 0x7F) ∨ c.toNat = 0x09

instance (cs : List Char) : Decidable (Readable cs) := List.decidableBAll _ _

theorem Readable.ascii {cs : List Char} (h : Readable cs) : ∀ c ∈ cs, c.toNat < 0x80 := by
  intro c hc
  rcases h c hc with hc | hc <;> omega

end Text

namespace HeaderField

theorem isReadable_iff {b : UInt8} : isReadable b = true ↔ (0x20 ≤ b.toNat ∧ b.toNat < 0x7F) ∨ b.toNat = 0x09 := by
  simp [isReadable, UInt8.le_iff_toNat_le, UInt8.lt_iff_toNat_lt, ← UInt8.toNat_inj]

/-- A readable text comes out of a header field as it went in. -/
theorem text?_of_readable {f : HeaderField} {cs : List Char} (h : Text.Readable cs)
    (hv : f.value = Text.encode cs) : f.text? = some cs := by
  have hbyte (c : Char) (hc : c ∈ cs) := (Text.utf8EncodeChar_of_ascii (h.ascii c hc)).2
  rw [Text.encode_of_ascii h.ascii] at hv
  have hall : f.value.all isReadable = true := by
    rw [hv, List.all_map, List.all_eq_true]
    intro c hc
    rw [Function.comp_apply, isReadable_iff, hbyte c hc]
    exact h c hc
  have hback : (cs.map fun c => UInt8.ofNat c.toNat).map (fun b => Char.ofNat b.toNat) = cs := by
    rw [List.map_map]
    refine (List.map_congr_left fun c hc => ?_).trans (List.map_id cs)
    exact (congrArg Char.ofNat (hbyte c hc)).trans (Char.ofNat_toNat c)
  rw [text?, if_pos hall, hv, hback]

/-- The text of a field has the bytes of the field. -/
theorem value_of_text? {f : HeaderField} {cs : List Char} (h : f.text? = some cs) : f.value = Text.encode cs := by
  rw [text?, Option.ite_none_right_eq_some, Option.some.injEq] at h
  obtain ⟨hall, rfl⟩ := h
  have hbyte (b : UInt8) (hb : b ∈ f.value) : (Char.ofNat b.toNat).toNat = b.toNat ∧ b.toNat < 0x80 := by
    have hr := isReadable_iff.1 (List.all_eq_true.1 hall b hb)
    have hlt : b.toNat < 0x80 := by omega
    exact ⟨Text.toNat_ofNat_of_ascii hlt, hlt⟩
  rw [Text.encode_of_ascii, List.map_map]
  · refine ((List.map_congr_left fun b hb => ?_).trans (List.map_id f.value)).symm
    rw [Function.comp_apply, (hbyte b hb).1]
    exact UInt8.ofNat_toNat
  · intro c hc
    obtain ⟨b, hb, rfl⟩ := List.mem_map.1 hc
    rw [(hbyte b hb).1]
    exact (hbyte b hb).2

end HeaderField

theorem Credentials.serviceKey_eq_some {hs : Headers} {s : String} : (ofHeaders hs).serviceKey = some s ↔
    s ≠ "" ∧ ∃ cs, Headers.first? hs serviceKeyField = some cs ∧ Text.TrimsTo cs s.toList := by
  have hcore (cs : List Char) : (nonempty? (Text.trim cs)).map String.ofList = some s ↔
      s ≠ "" ∧ Text.TrimsTo cs s.toList := by
    rw [← Text.trim_eq_iff]
    cases Text.trim cs with
    | nil => exact iff_of_false nofun fun h => h.1 (String.toList_inj.1 h.2.symm)
    | cons d ds =>
      simp only [nonempty?, List.isEmpty_cons, Bool.false_eq_true, if_false, Option.map_some, Option.some.injEq]
      rw [← String.toList_inj, String.toList_ofList]
      refine ⟨fun h => ⟨?_, h⟩, fun h => h.2⟩
      rintro rfl
      cases h
  simp only [ofHeaders]
  cases Headers.first? hs serviceKeyField with
  | none => simp
  | some cs => simp [hcore]

end DatastoreAccess
