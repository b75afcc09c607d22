import ManagedAgent.Message.Digest
import ManagedAgent.Proofs.Wire.Text
import Mathlib.Algebra.Group.Nat.Defs

/-!
# Different configurations have different canonical bytes

The bytes of a map are those of its files one after the other, without a count and without an end
mark. They can still be read in one way only, because every name, content type and body comes after
its length, and a length takes eight bytes whatever it is.

* `lengthPrefixed_append_inj` : what comes first can be told from what follows, and so for a file
  (`canonicalFile_append_inj`);
* `canonical_determines_the_map` : hence maps of one digest are equal, or SHA-256 collides.
-/

set_option autoImplicit false

namespace ManagedAgent

/-! ## Lengths -/

namespace Sha256

theorem length_bigEndian (count n : Nat) : (bigEndian count n).length = count := by
  induction count generalizing n with
  | zero => rfl
  | succ count ih =>
    rw [bigEndian, List.length_append, ih]
    rfl

/-- A number that fits is known by its bytes. -/
theorem bigEndian_inj {count m n : Nat} (hm : m < 256 ^ count) (hn : n < 256 ^ count)
    (h : bigEndian count m = bigEndian count n) : m = n := by
  induction count generalizing m n with
  | zero =>
    rw [Nat.pow_zero] at hm hn
    omega
  | succ count ih =>
    obtain ⟨hhigh, hlow⟩ := List.append_inj h (by simp only [length_bigEndian])
    have hlow : m % 256 = n % 256 := by
      have := congrArg UInt8.toNat (List.singleton_inj.1 hlow)
      rwa [UInt8.toNat_ofNat', UInt8.toNat_ofNat'] at this
    rw [Nat.pow_succ] at hm hn
    have := ih (Nat.div_lt_of_lt_mul (by omega)) (Nat.div_lt_of_lt_mul (by omega)) hhigh
    omega

def Collision (a b : Bytes) : Prop := a ≠ b ∧ digest a = digest b

end Sha256

/-- Short enough for a length in eight bytes. -/
def IsShort (b : Bytes) : Prop := b.length < 2 ^ 64

instance (b : Bytes) : Decidable (IsShort b) := inferInstanceAs (Decidable (_ < _))

/-- Bytes after their length can be told from what follows them. -/
theorem lengthPrefixed_append_inj {a b s t : Bytes} (ha : IsShort a) (hb : IsShort b)
    (h : lengthPrefixed a ++ s = lengthPrefixed b ++ t) : a = b ∧ s = t := by
  unfold lengthPrefixed at h
  rw [List.append_assoc, List.append_assoc] at h
  obtain ⟨hlength, hrest⟩ := List.append_inj h (by simp only [Sha256.length_bigEndian])
  exact List.append_inj hrest (Sha256.bigEndian_inj ha hb hlength)

/-! ## Files and maps -/

theorem utf8_inj {s t : String} (h : Wire.utf8 s = Wire.utf8 t) : s = t := by
  have := congrArg Wire.ofUtf8 h
  rw [Wire.ofUtf8_utf8, Wire.ofUtf8_utf8] at this
  exact Option.some.inj this

namespace ConfigMap

structure FileIsShort (file : String × ConfigFile) : Prop where
  name : IsShort (Wire.utf8 file.1)
  contentType : IsShort (Wire.utf8 file.2.contentType)
  body : IsShort file.2.body

def FilesAreShort (m : ConfigMap) : Prop := ∀ file ∈ m.files.entries, FileIsShort file

/-- A file can be told from the files behind it, also where its body looks like a file. -/
theorem canonicalFile_append_inj {f g : String × ConfigFile} {s t : Bytes} (hf : FileIsShort f)
    (hg : FileIsShort g) (h : canonicalFile f ++ s = canonicalFile g ++ t) : f = g ∧ s = t := by
  obtain ⟨name, body, contentType⟩ := f
  obtain ⟨name', body', contentType'⟩ := g
  unfold canonicalFile at h
  simp only [List.append_assoc] at h
  obtain ⟨hname, hbehind⟩ := lengthPrefixed_append_inj hf.name hg.name h
  obtain ⟨htype, hbehind⟩ := lengthPrefixed_append_inj hf.contentType hg.contentType hbehind
  obtain ⟨hbody, hrest⟩ := lengthPrefixed_append_inj hf.body hg.body hbehind
  obtain rfl : name = name' := utf8_inj hname
  obtain rfl : contentType = contentType' := utf8_inj htype
  obtain rfl : body = body' := hbody
  exact ⟨rfl, hrest⟩

/-- A file is never without bytes, so that a longer list of files has more of them. -/
theorem canonicalFile_ne_nil (f : String × ConfigFile) : canonicalFile f ≠ [] := by
  intro h
  have hlength := congrArg List.length h
  unfold canonicalFile lengthPrefixed at hlength
  simp only [List.length_append, Sha256.length_bigEndian, List.length_nil] at hlength
  omega

/-- Lists of files are read in one way, file by file. -/
theorem flatMap_canonicalFile_inj {files files' : List (String × ConfigFile)}
    (hf : ∀ f ∈ files, FileIsShort f) (hf' : ∀ f ∈ files', FileIsShort f)
    (h : files.flatMap canonicalFile = files'.flatMap canonicalFile) : files = files' := by
  induction files generalizing files' with
  | nil =>
    cases files' with
    | nil => rfl
    | cons g gs => exact absurd (List.append_eq_nil_iff.1 h.symm).1 (canonicalFile_ne_nil g)
  | cons f fs ih =>
    cases files' with
    | nil => exact absurd (List.append_eq_nil_iff.1 h).1 (canonicalFile_ne_nil f)
    | cons g gs =>
      obtain ⟨rfl, hrest⟩ := canonicalFile_append_inj (hf f List.mem_cons_self)
        (hf' g List.mem_cons_self) h
      rw [ih (fun f hfs => hf f (List.mem_cons_of_mem _ hfs))
        (fun f hgs => hf' f (List.mem_cons_of_mem _ hgs)) hrest]

/-- **A configuration is known by its canonical bytes**, and by its digest unless SHA-256 collides
on the bytes of two configurations. -/
theorem canonical_determines_the_map {a b : ConfigMap} (ha : a.FilesAreShort)
    (hb : b.FilesAreShort) :
    (a.canonical = b.canonical ↔ a = b) ∧
      (a.digest = b.digest ↔ a = b ∨ Sha256.Collision a.canonical b.canonical) := by
  have hcanonical : a.canonical = b.canonical ↔ a = b := by
    refine ⟨fun h => ?_, fun h => h ▸ rfl⟩
    obtain ⟨⟨files, sorted⟩⟩ := a
    obtain ⟨⟨files', sorted'⟩⟩ := b
    obtain rfl : files = files' := flatMap_canonicalFile_inj ha hb h
    rfl
  refine ⟨hcanonical, fun h => ?_, ?_⟩
  · by_cases heq : a = b
    · exact .inl heq
    · exact .inr ⟨mt hcanonical.1 heq, h⟩
  · rintro (rfl | h)
    · rfl
    · exact h.2

/-- The files `ab` of type `c` and `a` of type `bc` have the same letters in the same order. -/
theorem canonical_determines_the_map_boundary :
    (single "ab" "c" []).FilesAreShort ∧ (single "a" "bc" []).FilesAreShort ∧
      (single "ab" "c" []).canonical ≠ (single "a" "bc" []).canonical := by
  have hshort (name contentType : String) (hname : IsShort (Wire.utf8 name))
      (htype : IsShort (Wire.utf8 contentType)) : (single name contentType []).FilesAreShort := by
    intro file hfile
    obtain rfl : file = (name, ⟨[], contentType⟩) := List.mem_singleton.1 hfile
    exact ⟨hname, htype, Nat.two_pow_pos 64⟩
  have ha := hshort "ab" "c" (by decide) (by decide)
  have hb := hshort "a" "bc" (by decide) (by decide)
  exact ⟨ha, hb, mt (canonical_determines_the_map ha hb).1.1 (by decide)⟩

end ConfigMap

end ManagedAgent
