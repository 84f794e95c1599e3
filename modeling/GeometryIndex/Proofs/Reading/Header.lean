import GeometryIndex.Geometry.Tree.Events
import GeometryIndex.Proofs.Reading.Passage

/-!
# Reading — headers and coordinates

A header is read back as its form says, and nothing but the header of some form is read as one.

* `Form.typeWord_lt`, `Form.flags_typeWord`, `Form.typeWord_mod`: a type word splits into three
  flags and a code; `Form.eq_typeWord` puts a word together from its parts.
* `Header.read_eq_ok_iff`: a header is read exactly when the input begins with the header of a form
  whose SRID agrees with the geometry around it.
* `Header.readCoordinate_eq_ok_iff`: a coordinate is read exactly when the input begins with the
  ordinates that the form declares; what is told of it is `Form.told`.
-/

namespace GeometryIndex

/-- The SRID, if it is written, is that of the geometry around, if there is one. -/
def Form.Agrees (form : Form) (outer : Option Int32) : Prop :=
  ∀ srid ∈ form.srid, ∀ around ∈ outer, srid = around

/-- What the header of a form is read as inside a geometry with the SRID `outer`. -/
def Form.asHeader (form : Form) (kind : Kind) (outer : Option Int32) : Header :=
  ⟨form.order, kind, form.hasZ, form.hasM, form.srid.getD (outer.getD 0)⟩

/-! ### The code of a kind and its thousands -/

namespace Kind

theorem ofCode?_eq_some_iff {n : Nat} {kind : Kind} : ofCode? n = some kind ↔ n = kind.code := by
  constructor
  · intro h
    unfold ofCode? at h
    split at h <;> cases h <;> rfl
  · rintro rfl
    exact ofCode?_code kind

theorem code_le (kind : Kind) : kind.code ≤ 7 := by
  rcases kind with _ | _ | _ | ⟨_ | _ | _ | _⟩ <;> decide

end Kind

theorem Header.offsetDimensions?_eq_some_iff {n : Nat} {z m : Bool} :
    offsetDimensions? n = some (z, m) ↔ n = z.toNat + 2 * m.toNat := by
  unfold offsetDimensions?
  split <;> cases z <;> cases m <;> simp_all

/-! ### Type words -/

namespace Form

theorem typeWord_eq (form : Form) (kind : Kind) :
    form.typeWord kind = kind.code + 1000 * (form.zOffset.toNat + 2 * form.mOffset.toNat) +
      536870912 * form.srid.isSome.toNat + 1073741824 * form.mFlag.toNat +
      2147483648 * form.zFlag.toNat := rfl

theorem typeWord_lt (form : Form) (kind : Kind) : form.typeWord kind < UInt32.size := by
  have hcode := kind.code_le
  have hzo := form.zOffset.toNat_le
  have hmo := form.mOffset.toNat_le
  have hs := form.srid.isSome.toNat_le
  have hm := form.mFlag.toNat_le
  have hz := form.zFlag.toNat_le
  rw [typeWord_eq, UInt32.size]
  omega

theorem typeWord_mod (form : Form) (kind : Kind) : form.typeWord kind % Header.codeSpan =
    kind.code + 1000 * (form.zOffset.toNat + 2 * form.mOffset.toNat) := by
  have hcode := kind.code_le
  have hzo := form.zOffset.toNat_le
  have hmo := form.mOffset.toNat_le
  rw [typeWord_eq, Header.codeSpan]
  omega

theorem typeWord_div (form : Form) (kind : Kind) : form.typeWord kind / Header.codeSpan =
    form.srid.isSome.toNat + 2 * form.mFlag.toNat + 4 * form.zFlag.toNat := by
  have hcode := kind.code_le
  have hzo := form.zOffset.toNat_le
  have hmo := form.mOffset.toNat_le
  rw [typeWord_eq, Header.codeSpan]
  omega

/-- The flags of a word are the lowest bits of what it has above the code span. -/
theorem testBit_flag (word i : Nat) :
    word.testBit (i + Header.sridFlag) = (word / Header.codeSpan).testBit i :=
  (Nat.testBit_div_two_pow word i).symm

theorem flags_typeWord (form : Form) (kind : Kind) :
    (form.typeWord kind).testBit Header.sridFlag = form.srid.isSome ∧
      (form.typeWord kind).testBit Header.mFlag = form.mFlag ∧
      (form.typeWord kind).testBit Header.zFlag = form.zFlag := by
  have bits : ∀ s m z : Bool, (s.toNat + 2 * m.toNat + 4 * z.toNat).testBit 0 = s ∧
      (s.toNat + 2 * m.toNat + 4 * z.toNat).testBit 1 = m ∧
      (s.toNat + 2 * m.toNat + 4 * z.toNat).testBit 2 = z := by decide
  have hbits := bits form.srid.isSome form.mFlag form.zFlag
  simp only [← typeWord_div form kind, ← testBit_flag] at hbits
  exact hbits

/-- A word of 32 bits is the type word of any form and kind that its parts name. -/
theorem eq_typeWord {word : Nat} {form : Form} {kind : Kind} (h : word < UInt32.size)
    (hs : word.testBit Header.sridFlag = form.srid.isSome)
    (hm : word.testBit Header.mFlag = form.mFlag) (hz : word.testBit Header.zFlag = form.zFlag)
    (ho : word % Header.codeSpan / 1000 = form.zOffset.toNat + 2 * form.mOffset.toNat)
    (hk : word % Header.codeSpan % 1000 = kind.code) : word = form.typeWord kind := by
  have hflags : word / Header.codeSpan =
      form.srid.isSome.toNat + 2 * form.mFlag.toNat + 4 * form.zFlag.toNat := by
    have hlt : word / Header.codeSpan < 8 := by
      rw [UInt32.size] at h
      rw [Header.codeSpan]
      omega
    have bits : ∀ q < 8, q =
        (q.testBit 0).toNat + 2 * (q.testBit 1).toNat + 4 * (q.testBit 2).toNat := by decide
    have hbits := bits _ hlt
    simp only [← testBit_flag] at hbits
    rwa [← hs, ← hm, ← hz]
  have hword := Nat.div_add_mod word Header.codeSpan
  have hcode := Nat.div_add_mod (word % Header.codeSpan) 1000
  rw [ho, hk] at hcode
  rw [hflags, ← hcode, Header.codeSpan] at hword
  rw [typeWord_eq]
  omega

end Form

/-! ### The SRID -/

/-- A word of 32 bits and the signed number that it stands for. -/
theorem toNat_toInt32_ofNat {n : Nat} (h : n < UInt32.size) :
    (UInt32.ofNat n).toInt32.toUInt32.toNat = n := by
  simp [Nat.mod_eq_of_lt h]

theorem Header.readSrid_eq_ok_iff {order : ByteOrder} {announced : Bool} {outer : Option Int32}
    {input rest : Input} {srid : Int32} :
    readSrid order announced outer input = .ok (srid, rest) ↔
      ∃ written : Option Int32, written.isSome = announced ∧
        (∀ s ∈ written, ∀ around ∈ outer, s = around) ∧
        input.Passes (written.elim [] fun s => order.encode 4 s.toUInt32.toNat) rest ∧
        srid = written.getD (outer.getD 0) := by
  unfold readSrid
  cases announced with
  | false =>
    simp only [Bool.false_eq_true, if_false, Read.pure_eq_ok_iff, Option.isSome_eq_false_iff,
      Option.isNone_iff_eq_none]
    constructor
    · rintro ⟨rfl, rfl⟩
      exact ⟨none, rfl, by simp, Input.passes_nil.2 rfl, rfl⟩
    · rintro ⟨_, rfl, -, hpass, rfl⟩
      exact ⟨rfl, Input.passes_nil.1 hpass⟩
  | true =>
    simp only [if_true, Read.bind_eq_ok_iff, Read.word_eq_ok_iff]
    constructor
    · rintro ⟨n, mid, ⟨hn, hpass⟩, h⟩
      -- whatever stands around, what was read is answered as it is
      have answer : (∀ around ∈ outer, around = (UInt32.ofNat n).toInt32) ∧
          srid = (UInt32.ofNat n).toInt32 ∧ rest = mid := by
        cases outer with
        | none => exact ⟨by simp, Read.pure_eq_ok_iff.1 h⟩
        | some around =>
          simp only at h
          split at h
          · next same => exact ⟨by simpa using same, Read.pure_eq_ok_iff.1 h⟩
          · exact (Read.fail_eq_ok_iff.1 h).elim
      obtain ⟨hagree, rfl, rfl⟩ := answer
      refine ⟨some (UInt32.ofNat n).toInt32, rfl, ?_, ?_, rfl⟩
      · rintro s ⟨⟩ around haround
        exact (hagree around haround).symm
      · simpa only [Option.elim_some, toNat_toInt32_ofNat hn] using hpass
    · rintro ⟨written, hsome, hagree, hpass, rfl⟩
      obtain ⟨s, rfl⟩ := Option.isSome_iff_exists.1 hsome
      have hs : (UInt32.ofNat s.toUInt32.toNat).toInt32 = s := by simp
      refine ⟨s.toUInt32.toNat, rest, ⟨s.toUInt32.toNat_lt, hpass⟩, ?_⟩
      rw [hs]
      cases outer with
      | none => exact Read.pure_eq_ok_iff.2 ⟨rfl, rfl⟩
      | some around =>
        simp only [if_pos (hagree s rfl around rfl).symm]
        exact Read.pure_eq_ok_iff.2 ⟨rfl, rfl⟩

/-! ### The header -/

namespace Header

/-- A header is read exactly when it is that of a form which agrees with what stands around. -/
theorem read_eq_ok_iff {outer : Option Int32} {input rest : Input} {h : Header} :
    read outer input = .ok (h, rest) ↔
      ∃ (form : Form) (kind : Kind), form.Agrees outer ∧ input.Passes (form.header kind) rest ∧
        h = form.asHeader kind outer := by
  unfold read
  simp only [Read.bind_eq_ok_iff, Read.byteOrder_eq_ok_iff, Read.word_eq_ok_iff,
    readSrid_eq_ok_iff]
  constructor
  · rintro ⟨order, in₁, hmark, word, in₂, ⟨hlt, hword⟩, srid, in₃,
      ⟨written, hsome, hagree, hsrid, rfl⟩, hcode⟩
    cases hoffset : offsetDimensions? (word % codeSpan / 1000) with
    | none => simp only [hoffset, Read.fail_eq_ok_iff] at hcode
    | some zm =>
      cases hkind : Kind.ofCode? (word % codeSpan % 1000) with
      | none => simp only [hoffset, hkind, Read.fail_eq_ok_iff] at hcode
      | some kind =>
        simp only [hoffset, hkind, Read.pure_eq_ok_iff] at hcode
        obtain ⟨rfl, rfl⟩ := hcode
        obtain ⟨z, m⟩ := zm
        let form : Form := ⟨order, word.testBit zFlag, word.testBit mFlag, z, m, written⟩
        have same : word = form.typeWord kind := Form.eq_typeWord hlt hsome.symm rfl rfl
          (offsetDimensions?_eq_some_iff.1 hoffset) (Kind.ofCode?_eq_some_iff.1 hkind)
        rw [same] at hword
        exact ⟨form, kind, hagree,
          Input.passes_append.2 ⟨_, Input.passes_cons.2 ⟨_, hmark, hword⟩, hsrid⟩, rfl⟩
  · rintro ⟨form, kind, hagree, hpass, rfl⟩
    obtain ⟨in₂, hfront, hsrid⟩ := Input.passes_append.1 hpass
    obtain ⟨in₁, hmark, hword⟩ := Input.passes_cons.1 hfront
    obtain ⟨hs, hm, hz⟩ := form.flags_typeWord kind
    have hmod := form.typeWord_mod kind
    have hle := kind.code_le
    have hoffset : offsetDimensions? (form.typeWord kind % codeSpan / 1000) =
        some (form.zOffset, form.mOffset) := by
      rw [offsetDimensions?_eq_some_iff, hmod]
      omega
    have hkind : Kind.ofCode? (form.typeWord kind % codeSpan % 1000) = some kind := by
      rw [Kind.ofCode?_eq_some_iff, hmod]
      omega
    refine ⟨form.order, in₁, hmark, form.typeWord kind, in₂, ⟨form.typeWord_lt kind, hword⟩, _,
      rest, ⟨form.srid, hs.symm, hagree, hsrid, rfl⟩, ?_⟩
    rw [hoffset, hkind, hm, hz]
    exact Read.pure_eq_ok_iff.2 ⟨rfl, rfl⟩

/-- So is the header of an item, of the kind expected. -/
theorem readItem_eq_ok_iff {outer : Option Int32} {expected : Option Kind} {input rest : Input}
    {h : Header} :
    readItem outer expected input = .ok (h, rest) ↔
      ∃ (form : Form) (kind : Kind), form.Agrees outer ∧ (∀ k ∈ expected, kind = k) ∧
        input.Passes (form.header kind) rest ∧ h = form.asHeader kind outer := by
  unfold readItem
  simp only [Read.bind_eq_ok_iff, read_eq_ok_iff]
  cases expected with
  | none =>
    simp only [Read.pure_eq_ok_iff]
    constructor
    · rintro ⟨_, _, ⟨form, kind, hagree, hpass, rfl⟩, rfl, rfl⟩
      exact ⟨form, kind, hagree, by simp, hpass, rfl⟩
    · rintro ⟨form, kind, hagree, -, hpass, rfl⟩
      exact ⟨_, _, ⟨form, kind, hagree, hpass, rfl⟩, rfl, rfl⟩
  | some k =>
    constructor
    · rintro ⟨_, mid, ⟨form, kind, hagree, hpass, rfl⟩, h⟩
      simp only at h
      split at h
      · next same =>
        obtain ⟨rfl, rfl⟩ := Read.pure_eq_ok_iff.1 h
        exact ⟨form, kind, hagree, fun k' hk' => same.trans (Option.some.inj hk'), hpass, rfl⟩
      · exact (Read.fail_eq_ok_iff.1 h).elim
    · rintro ⟨form, kind, hagree, hkind, hpass, rfl⟩
      refine ⟨_, rest, ⟨form, kind, hagree, hpass, rfl⟩, ?_⟩
      have same : (form.asHeader kind outer).kind = k := hkind k rfl
      simp only [if_pos same]
      exact Read.pure_eq_ok_iff.2 ⟨rfl, rfl⟩

end Header

/-! ### Coordinates -/

namespace Header

variable {form : Form} {kind : Kind} {outer : Option Int32} {input rest : Input}

theorem readOrdinate_eq_ok_iff {declared : Bool} {x : Double} :
    (form.asHeader kind outer).readOrdinate declared input = .ok (x, rest) ↔
      ∃ written : Double, input.Passes (if declared then form.double written else []) rest ∧
        x = if declared then written.canonical else .nan := by
  unfold readOrdinate
  cases declared with
  | false =>
    simp only [Bool.false_eq_true, if_false, Read.pure_eq_ok_iff, Input.passes_nil]
    exact ⟨fun ⟨hx, hrest⟩ => ⟨.nan, hrest, hx⟩, fun ⟨_, hrest, hx⟩ => ⟨hx, hrest⟩⟩
  | true =>
    simp only [if_true, Read.bind_eq_ok_iff, Read.double_eq_ok_iff, Read.pure_eq_ok_iff]
    constructor
    · rintro ⟨written, mid, hpass, rfl, rfl⟩
      exact ⟨written, hpass, rfl⟩
    · rintro ⟨written, hpass, rfl⟩
      exact ⟨written, rest, hpass, rfl, rfl⟩

/-- A coordinate is read exactly when its declared ordinates are there. -/
theorem readCoordinate_eq_ok_iff {c : Coordinate} :
    (form.asHeader kind outer).readCoordinate input = .ok (c, rest) ↔
      ∃ written : Coordinate, input.Passes (form.coordinate written) rest ∧
        c = form.told written := by
  unfold readCoordinate
  simp only [Read.bind_eq_ok_iff, readOrdinate_eq_ok_iff, Read.pure_eq_ok_iff, if_true]
  constructor
  · rintro ⟨_, in₁, ⟨x, hx, rfl⟩, _, in₂, ⟨y, hy, rfl⟩, _, in₃, ⟨z, hz, rfl⟩, _, in₄,
      ⟨m, hm, rfl⟩, rfl, rfl⟩
    refine ⟨⟨x, y, z, m⟩, ?_, rfl⟩
    exact Input.passes_append.2 ⟨_, Input.passes_append.2 ⟨_, Input.passes_append.2
      ⟨_, hx, hy⟩, hz⟩, hm⟩
  · rintro ⟨⟨x, y, z, m⟩, hpass, rfl⟩
    obtain ⟨in₃, hfront, hm⟩ := Input.passes_append.1 hpass
    obtain ⟨in₂, hfront, hz⟩ := Input.passes_append.1 hfront
    obtain ⟨in₁, hx, hy⟩ := Input.passes_append.1 hfront
    exact ⟨_, in₁, ⟨x, hx, rfl⟩, _, in₂, ⟨y, hy, rfl⟩, _, in₃, ⟨z, hz, rfl⟩, _, rest,
      ⟨m, hm, rfl⟩, rfl, rfl⟩

end Header

end GeometryIndex
