import ManagedAgent.Gzip.Member
import ManagedAgent.Proofs.Gzip.Blocks

/-!
# Compressed texts are read back, and known by their first bytes

* `member_compress`, `decompress_compress` : decompressing undoes compressing, for every text;
* `exists_eq_cons_of_decompress` : whatever is decompressed begins with the two bytes of the format.
-/

set_option autoImplicit false

namespace ManagedAgent.Gzip

@[simp] theorem length_littleEndian (count n : Nat) : (littleEndian count n).length = count := by
  induction count generalizing n with
  | zero => rfl
  | succ count ih => rw [littleEndian, List.length_cons, ih]

theorem ofLittleEndian_littleEndian (count n : Nat) :
    ofLittleEndian (littleEndian count n) = n % 256 ^ count := by
  induction count generalizing n with
  | zero => rw [Nat.pow_zero, Nat.mod_one]; rfl
  | succ count ih =>
    rw [littleEndian, ofLittleEndian, ih, UInt8.toNat_ofNat', show 2 ^ 8 = 256 from rfl,
      ← Nat.mod_mul, ← Nat.pow_succ']

namespace ByteReader

theorem takes_bytes (s : Bytes) : (bytes s.length).Takes s s := by
  induction s with
  | nil => exact Reader.takes_pure []
  | cons b s ih =>
    refine Reader.Takes.bind (Reader.takes_nextOr Failure.unexpectedEnd b) ?_
    exact ih.map (b :: ·)

theorem takes_number {count n : Nat} (h : n < 256 ^ count) :
    (number count).Takes (littleEndian count n) n := by
  have htakes := (takes_bytes (littleEndian count n)).map ofLittleEndian
  rwa [length_littleEndian, ofLittleEndian_littleEndian, Nat.mod_eq_of_lt h] at htakes

theorem takes_header : header.Takes plainHeader () := fun _ => rfl

theorem takes_trailer (text : Bytes) :
    (trailer text).Takes
      (littleEndian 4 (Crc32.checksum text).toNat ++ littleEndian 4 (text.length % UInt32.size)) () := by
  have hsize : UInt32.size = 256 ^ 4 := by simp [UInt32.size]
  have hchecksum : (Crc32.checksum text).toNat < 256 ^ 4 :=
    hsize ▸ (Crc32.checksum text).toNat_lt_size
  have hlength : text.length % UInt32.size < 256 ^ 4 :=
    hsize ▸ Nat.mod_lt text.length (Nat.pos_of_ne_zero (by simp [UInt32.size]))
  have hend : (if (Crc32.checksum text).toNat = (Crc32.checksum text).toNat ∧
        text.length % UInt32.size = text.length % UInt32.size then pure ()
      else Reader.fail .checksum : ByteReader Unit).Takes [] () := by
    rw [if_pos ⟨rfl, rfl⟩]
    exact Reader.takes_pure ()
  rw [← List.append_nil (littleEndian 4 (text.length % UInt32.size))]
  unfold trailer
  refine (takes_number hchecksum).bind ?_
  exact (takes_number hlength).bind hend

/-! ## What a header is -/

theorem eq_append_of_run_bytes {count : Nat} {s b r : Bytes} (h : (bytes count).run s = .ok (b, r)) :
    s = b ++ r := by
  induction count generalizing s b r with
  | zero =>
    cases h
    rfl
  | succ count ih =>
    cases s with
    | nil => cases h
    | cons x s =>
      obtain ⟨_, _, hnext, hmore⟩ := Reader.exists_of_run_bind_eq_ok h
      cases hnext
      obtain ⟨more, r', hbytes, hpure⟩ := Reader.exists_of_run_bind_eq_ok hmore
      cases hpure
      exact congrArg (x :: ·) (ih hbytes)

theorem exists_eq_cons_of_run_fixedHeader {s r : Bytes} {flags : UInt8}
    (h : fixedHeader.run s = .ok (flags, r)) : ∃ rest, s = 0x1F :: 0x8B :: rest := by
  obtain ⟨b, r', hbytes, hcheck⟩ := Reader.exists_of_run_bind_eq_ok h
  obtain rfl := eq_append_of_run_bytes hbytes
  split at hcheck
  · rename_i id₁ id₂ method flags' more
    split at hcheck
    · rename_i hids
      exact ⟨method :: flags' :: more ++ r', by rw [hids.1, hids.2.1]; rfl⟩
    · cases hcheck
  · cases hcheck

/-- A header is its fields, and the checksum of their bytes if there is one. -/
theorem run_header (s : Bytes) :
    header.run s = match headerFields.run s with
      | .error e => .error e
      | .ok (false, r) => .ok ((), r)
      | .ok (true, r) =>
        (do
          if (← number 2) = (Crc32.checksum (s.take (s.length - r.length))).toNat % UInt16.size then
            return ()
          else Reader.fail .checksum : ByteReader Unit).run r := by
  unfold Reader.run header
  cases headerFields s with
  | error e => rfl
  | ok x =>
    obtain ⟨isChecked, r⟩ := x
    cases isChecked with
    | false => rfl
    | true => exact Reader.run_widen _ r.2

theorem exists_eq_cons_of_run_header {s r : Bytes} (h : header.run s = .ok ((), r)) :
    ∃ rest, s = 0x1F :: 0x8B :: rest := by
  rw [run_header] at h
  cases hfields : headerFields.run s with
  | error e =>
    rw [hfields] at h
    cases h
  | ok x =>
    obtain ⟨flags, t, hfixed, -⟩ := Reader.exists_of_run_bind_eq_ok hfields
    exact exists_eq_cons_of_run_fixedHeader hfixed

end ByteReader

/-! ## Members -/

/-- The text of the first member, and the bytes behind that member. -/
def member (data : Bytes) : Except Failure (Bytes × Bytes) := do
  let (_, data) ← Reader.run ByteReader.header data
  let (text, data) ← inflate data
  let (_, rest) ← Reader.run (ByteReader.trailer text) data
  return (text, rest)

theorem decompress_eq (data : Bytes) : decompress data = (member data).map (·.1) := by
  unfold decompress member
  simp only [bind, Except.bind]
  cases Reader.run ByteReader.header data with
  | error e => rfl
  | ok x =>
    dsimp only
    cases inflate x.2 with
    | error e => rfl
    | ok y =>
      dsimp only
      cases Reader.run (ByteReader.trailer y.1) y.2 with
      | error e => rfl
      | ok z => rfl

theorem exists_member_of_decompress {data text : Bytes} (h : decompress data = .ok text) :
    ∃ rest, member data = .ok (text, rest) := by
  rw [decompress_eq] at h
  cases hmember : member data with
  | error e =>
    rw [hmember] at h
    cases h
  | ok x =>
    rw [hmember] at h
    cases h
    exact ⟨x.2, rfl⟩

/-- What a pair of steps gives, the second one gives after the first one. -/
theorem exists_of_bind_eq_ok {α β : Type} {x : Except Failure α} {f : α → Except Failure β} {b : β}
    (h : x >>= f = .ok b) : ∃ a, x = .ok a ∧ f a = .ok b := by
  cases x with
  | error e => cases h
  | ok a => exact ⟨a, rfl, h⟩

/-- A member is a header, compressed data and the trailer of its text. -/
theorem member_eq_ok_iff {data text rest : Bytes} :
    member data = .ok (text, rest) ↔ ∃ body last, ByteReader.header.run data = .ok ((), body) ∧
      inflate body = .ok (text, last) ∧ (ByteReader.trailer text).run last = .ok ((), rest) := by
  constructor
  · intro h
    obtain ⟨⟨_, body⟩, hheader, h⟩ := exists_of_bind_eq_ok h
    obtain ⟨⟨_, last⟩, hbody, h⟩ := exists_of_bind_eq_ok h
    obtain ⟨⟨_, _⟩, htrailer, h⟩ := exists_of_bind_eq_ok h
    cases h
    exact ⟨body, last, hheader, hbody, htrailer⟩
  · rintro ⟨body, last, hheader, hbody, htrailer⟩
    unfold member
    rw [hheader]
    show (inflate body >>= _) = _
    rw [hbody]
    show (Reader.run (ByteReader.trailer text) last >>= _) = _
    rw [htrailer]
    rfl

/-- What is compressed is one member, with nothing behind it. -/
theorem member_compress (text : Bytes) : member (compress text) = .ok (text, []) := by
  have htrailer := ByteReader.takes_trailer text []
  rw [List.append_nil] at htrailer
  unfold compress
  rw [List.append_assoc, List.append_assoc]
  exact member_eq_ok_iff.2
    ⟨_, _, ByteReader.takes_header _, inflate_deflate text _, htrailer⟩

/-- **Decompressing undoes compressing**, for every text. -/
theorem decompress_compress (text : Bytes) : decompress (compress text) = .ok text := by
  rw [decompress_eq, member_compress]
  rfl

/-- Whatever is decompressed begins with the two bytes of the format. -/
theorem exists_eq_cons_of_decompress {data text : Bytes} (h : decompress data = .ok text) :
    ∃ rest, data = 0x1F :: 0x8B :: rest := by
  obtain ⟨rest, hmember⟩ := exists_member_of_decompress h
  obtain ⟨body, last, hheader, -⟩ := member_eq_ok_iff.1 hmember
  exact ByteReader.exists_eq_cons_of_run_header hheader

end ManagedAgent.Gzip
