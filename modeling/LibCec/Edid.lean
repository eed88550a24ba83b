import LibCec.Configuration

/-! The physical address in the EDID of a display.

    An EDID is a base block and extension blocks of 128 bytes. The extensions of CEA carry data
    blocks, and the one that HDMI defines has the physical address behind its identifier:

        base block │ CEA extension                                       │ …
                   │ 02 rev off flags │ data blocks │ timings │ checksum │
                                         └─ vendor specific: 03 0C 00 p p …

    `GetPhysicalAddressFromEDID` does not follow the blocks: it takes the first `03 0C 00` that has
    two bytes behind it for the identifier. `physicalAddressFromEdid_iff` says when this is so. -/

namespace CEC

/-! ### The parser -/

/-- The header that a base block opens with. -/
def edidHeader : List UInt8 := [0x00, 0xFF, 0xFF, 0xFF, 0xFF, 0xFF, 0xFF, 0x00]

/-- `GetModelYearFromEDID`; a read at or past the end is `none`. -/
def getModelYearFromEDID (data : List UInt8) : Option UInt16 :=
  if data.length < 18 then some 0
  else do
    let opening ← (List.range 8).mapM fun i => data[i]?
    if opening ≠ edidHeader then some 0
    else
      let year ← data[17]?
      if year = 0 then some 0 else some (1990 + year.toUInt16)

/-- The test for the hdmi marker, which stops at the first byte that is another one. -/
def isHdmiMarker (data : List UInt8) (iPtr : ℕ) : Option Bool := do
  let first ← data[iPtr]?
  if first ≠ 0x03 then some false
  else
    let second ← data[iPtr + 1]?
    if second ≠ 0x0C then some false
    else
      let third ← data[iPtr + 2]?
      some (third = 0x00)

/-- The loop of `GetPhysicalAddressFromEDID`, for at most `n` more rounds. -/
def searchHdmiMarker (data : List UInt8) : ℕ → ℕ → Option UInt16
  | 0, _ => none
  | n + 1, iPtr =>
    if 5 ≤ data.length ∧ iPtr + 4 < data.length then do
      let found ← isHdmiMarker data iPtr
      if found then
        let high ← data[iPtr + 3]?
        let low ← data[iPtr + 4]?
        some (high.toUInt16 <<< 8 ||| low.toUInt16)
      else searchHdmiMarker data n (iPtr + 1)
    else some 0

/-- `GetPhysicalAddressFromEDID` of `NULL` or of the bytes: the address, and the model year that is
    kept with it. -/
def getPhysicalAddressFromEDID : Option (List UInt8) → Option (UInt16 × Option UInt16)
  | none => some (0, none)
  | some data => do
    let iPA ← searchHdmiMarker data (data.length + 1) 0
    if iPA ≠ 0 then
      let year ← getModelYearFromEDID data
      some (iPA, some year)
    else some (iPA, none)

/-! ### The structure of an EDID -/

/-- A data block of a CEA extension: a tag, and at most 31 bytes. -/
structure DataBlock where
  tag : Fin 8
  payload : List UInt8
  fits : payload.length ≤ 31

/-- The header byte and the payload. -/
def DataBlock.bytes (b : DataBlock) : List UInt8 :=
  UInt8.ofNat (b.tag * 32 + b.payload.length) :: b.payload

/-- Sixteen bits, the high byte first. -/
def addressOfBytes (high low : UInt8) : UInt16 := high.toUInt16 <<< 8 ||| low.toUInt16

/-- The place of the identifier in HDMI's vendor specific data block, and the address behind it. -/
def DataBlock.hdmi (b : DataBlock) : Option (ℕ × UInt16) :=
  if b.tag = 3 ∧ b.payload.take 3 = [0x03, 0x0C, 0x00] ∧ 5 ≤ b.payload.length then
    some (1, addressOfBytes (b.payload.getD 3 0) (b.payload.getD 4 0))
  else none

/-- The first of the parts of a text in which something is found, with its place in the whole. -/
def firstFound {P : Type} (bytes : P → List UInt8) (find : P → Option (ℕ × UInt16)) :
    List P → Option (ℕ × UInt16)
  | [] => none
  | p :: ps => (find p).or ((firstFound bytes find ps).map fun r => ((bytes p).length + r.1, r.2))

/-- A CEA extension block. The offset of the timings is where the data blocks end; it may be zero
    when there is nothing but padding. -/
structure CeaExtension where
  revision : UInt8
  offset : UInt8
  flags : UInt8
  blocks : List DataBlock
  timings : List UInt8
  checksum : UInt8
  full : (blocks.flatMap DataBlock.bytes).length + timings.length = 123
  revision_ge : blocks ≠ [] → 3 ≤ revision
  offset_eq : offset.toNat = 4 + (blocks.flatMap DataBlock.bytes).length ∨ (blocks = [] ∧ offset = 0)

def CeaExtension.bytes (x : CeaExtension) : List UInt8 :=
  [0x02, x.revision, x.offset, x.flags] ++ x.blocks.flatMap DataBlock.bytes ++
    (x.timings ++ [x.checksum])

def CeaExtension.hdmi (x : CeaExtension) : Option (ℕ × UInt16) :=
  (firstFound DataBlock.bytes DataBlock.hdmi x.blocks).map fun r => (4 + r.1, r.2)

/-- A base block, without the number of extensions, and the extensions. -/
structure Edid where
  body : List UInt8
  checksum : UInt8
  extensions : List CeaExtension
  full : body.length = 118
  fits : extensions.length ≤ 255

namespace Edid

def base (e : Edid) : List UInt8 :=
  edidHeader ++ e.body ++ [UInt8.ofNat e.extensions.length, e.checksum]

def bytes (e : Edid) : List UInt8 := e.base ++ e.extensions.flatMap CeaExtension.bytes

/-- HDMI's data block: the place of its identifier in the EDID, and the physical address. -/
def hdmi (e : Edid) : Option (ℕ × UInt16) :=
  (firstFound CeaExtension.bytes CeaExtension.hdmi e.extensions).map fun r => (e.base.length + r.1, r.2)

/-- The physical address in HDMI's data block, or zero when there is no such block. -/
def physicalAddress (e : Edid) : UInt16 := (e.hdmi.map Prod.snd).getD 0

/-- The sum of the bytes of a block. -/
def blockSum (block : List UInt8) : UInt8 := block.foldl (fun sum b => sum + b) 0

/-- The bytes of each block add up to zero. -/
def ChecksumsValid (e : Edid) : Prop :=
  blockSum e.base = 0 ∧ ∀ x ∈ e.extensions, blockSum x.bytes = 0

instance (e : Edid) : Decidable e.ChecksumsValid := inferInstanceAs (Decidable (_ ∧ _))

end Edid

/-! ### Where the parser finds the marker -/

/-- At this place there are the bytes of HDMI's identifier and two more. -/
def MarkerAt (data : List UInt8) (i : ℕ) : Prop :=
  data[i]? = some 0x03 ∧ data[i + 1]? = some 0x0C ∧ data[i + 2]? = some 0x00 ∧ i + 4 < data.length

instance (data : List UInt8) (i : ℕ) : Decidable (MarkerAt data i) :=
  inferInstanceAs (Decidable (_ ∧ _))

/-- The two bytes behind the identifier. -/
def addressBehind (data : List UInt8) (i : ℕ) : UInt16 :=
  addressOfBytes (data.getD (i + 3) 0) (data.getD (i + 4) 0)

/-- It is the first such place. -/
def FirstMarker (data : List UInt8) (i : ℕ) : Prop :=
  MarkerAt data i ∧ ∀ j < i, ¬MarkerAt data j

/-- What the search from a place on is to come to. -/
inductive SearchResult (data : List UInt8) (iPtr : ℕ) : UInt16 → Prop
  | marker (i : ℕ) : iPtr ≤ i → MarkerAt data i → (∀ j, iPtr ≤ j → j < i → ¬MarkerAt data j) →
      SearchResult data iPtr (addressBehind data i)
  | nothing : (∀ i, iPtr ≤ i → ¬MarkerAt data i) → SearchResult data iPtr 0

section search

variable {data : List UInt8} {iPtr : ℕ}

/-- Where two more bytes follow the test stays within the data. -/
theorem isHdmiMarker_eq (h : iPtr + 4 < data.length) :
    isHdmiMarker data iPtr = some (decide (MarkerAt data iPtr)) := by
  have h0 : data[iPtr]? = some data[iPtr] := List.getElem?_eq_getElem (by omega)
  have h1 : data[iPtr + 1]? = some data[iPtr + 1] := List.getElem?_eq_getElem (by omega)
  have h2 : data[iPtr + 2]? = some data[iPtr + 2] := List.getElem?_eq_getElem (by omega)
  simp only [isHdmiMarker, MarkerAt, h0, h1, h2, h, Option.bind_eq_bind, Option.bind_some,
    Option.some.injEq, and_true]
  split
  · next hfirst => simp [hfirst]
  · next hfirst =>
    rw [not_not.mp hfirst]
    split
    · next hsecond => simp [hsecond]
    · next hsecond => simp [not_not.mp hsecond]

theorem addressBehind_eq (h : iPtr + 4 < data.length) :
    addressBehind data iPtr = addressOfBytes data[iPtr + 3] data[iPtr + 4] := by
  have h3 : iPtr + 3 < data.length := by omega
  simp [addressBehind, h, h3]

/-- The search comes to an end within the data. -/
theorem searchHdmiMarker_result : ∀ (n iPtr : ℕ), 0 < n → data.length < iPtr + n →
    ∃ pa, searchHdmiMarker data n iPtr = some pa ∧ SearchResult data iPtr pa
  | n + 1, iPtr, _, hn => by
    unfold searchHdmiMarker
    by_cases hin : iPtr + 4 < data.length
    · have h3 : data[iPtr + 3]? = some data[iPtr + 3] := List.getElem?_eq_getElem (by omega)
      have h4 : data[iPtr + 4]? = some data[iPtr + 4] := List.getElem?_eq_getElem hin
      rw [if_pos ⟨by omega, hin⟩, isHdmiMarker_eq hin]
      by_cases hmarker : MarkerAt data iPtr
      · refine ⟨addressBehind data iPtr, ?_, .marker iPtr le_rfl hmarker fun j h h' => ?_⟩
        · simp [hmarker, h3, h4, addressBehind_eq hin, addressOfBytes]
        · omega
      · obtain ⟨pa, hpa, hresult⟩ := searchHdmiMarker_result n (iPtr + 1) (by omega) (by omega)
        refine ⟨pa, by simpa [hmarker] using hpa, ?_⟩
        -- the place that was looked at is none of those left out
        have hless : ∀ i, iPtr ≤ i → ¬iPtr + 1 ≤ i → ¬MarkerAt data i := by
          intro i h h'
          rwa [show i = iPtr by omega]
        cases hresult with
        | marker i hi hat hfirst =>
          refine .marker i (by omega) hat fun j hj hji => ?_
          by_cases hnext : iPtr + 1 ≤ j
          · exact hfirst j hnext hji
          · exact hless j hj hnext
        | nothing hnone =>
          refine .nothing fun i hi => ?_
          by_cases hnext : iPtr + 1 ≤ i
          · exact hnone i hnext
          · exact hless i hi hnext
    · refine ⟨0, if_neg fun h => hin h.2, .nothing fun i hi hat => ?_⟩
      have := hat.2.2.2
      omega

/-- The model year is read within the data. -/
theorem getModelYearFromEDID_isSome (data : List UInt8) : (getModelYearFromEDID data).isSome := by
  unfold getModelYearFromEDID
  split
  · rfl
  · next hlong =>
    have hopening : ∀ is : List ℕ, (∀ i ∈ is, i < 18) → ∃ bs, is.mapM (fun i => data[i]?) = some bs := by
      intro is
      induction is with
      | nil => exact fun _ => ⟨[], rfl⟩
      | cons i is ih =>
        intro hall
        obtain ⟨hi, his⟩ := List.forall_mem_cons.mp hall
        obtain ⟨bs, hbs⟩ := ih his
        have hget : data[i]? = some data[i] := List.getElem?_eq_getElem (by omega)
        exact ⟨data[i] :: bs, by simp [List.mapM_cons, hget, hbs]⟩
    obtain ⟨bs, hbs⟩ := hopening (List.range 8) fun i hi => by
      have := List.mem_range.mp hi
      omega
    have h17 : data[17]? = some data[17] := List.getElem?_eq_getElem (by omega)
    simp only [hbs, h17, Option.bind_eq_bind, Option.bind_some]
    split
    · rfl
    · split <;> rfl

/-- The parser always returns, without a read at or past the end, and what it returns is what is
    behind the first marker. -/
theorem getPhysicalAddressFromEDID_result (data : List UInt8) : ∃ pa year,
    getPhysicalAddressFromEDID (some data) = some (pa, year) ∧ SearchResult data 0 pa := by
  obtain ⟨pa, hpa, hresult⟩ := @searchHdmiMarker_result data (data.length + 1) 0 (by omega)
    (by omega)
  obtain ⟨year, hyear⟩ := Option.isSome_iff_exists.mp (getModelYearFromEDID_isSome data)
  by_cases hzero : pa = 0
  · exact ⟨pa, none, by simp [getPhysicalAddressFromEDID, hpa, hzero], hresult⟩
  · exact ⟨pa, some year, by simp [getPhysicalAddressFromEDID, hpa, hzero, hyear], hresult⟩

end search

/-! ### Where HDMI's data block is -/

/-- At the place there is a marker with this address behind it. -/
def PointsTo (data : List UInt8) (r : ℕ × UInt16) : Prop :=
  MarkerAt data r.1 ∧ addressBehind data r.1 = r.2

theorem PointsTo.append_right {data : List UInt8} {r : ℕ × UInt16} (h : PointsTo data r)
    (more : List UInt8) : PointsTo (data ++ more) r := by
  obtain ⟨⟨h0, h1, h2, hin⟩, haddr⟩ := h
  have hget : ∀ i, i ≤ r.1 + 4 → (data ++ more)[i]? = data[i]? := fun i hi =>
    List.getElem?_append_left (by omega)
  have hbehind : addressBehind (data ++ more) r.1 = addressBehind data r.1 := by
    simp only [addressBehind, List.getD_eq_getElem?_getD]
    rw [hget _ (by omega), hget _ (by omega)]
  refine ⟨⟨?_, ?_, ?_, ?_⟩, hbehind.trans haddr⟩
  · rw [hget _ (by omega), h0]
  · rw [hget _ (by omega), h1]
  · rw [hget _ (by omega), h2]
  · rw [List.length_append]
    omega

theorem PointsTo.append_left {data : List UInt8} {r : ℕ × UInt16} (h : PointsTo data r)
    (front : List UInt8) : PointsTo (front ++ data) (front.length + r.1, r.2) := by
  obtain ⟨⟨h0, h1, h2, hin⟩, haddr⟩ := h
  have hget : ∀ i, (front ++ data)[front.length + r.1 + i]? = data[r.1 + i]? := by
    intro i
    rw [List.getElem?_append_right (by omega)]
    congr 1
    omega
  have hbehind : addressBehind (front ++ data) (front.length + r.1) = addressBehind data r.1 := by
    simp only [addressBehind, List.getD_eq_getElem?_getD, hget]
  refine ⟨⟨?_, ?_, ?_, ?_⟩, hbehind.trans haddr⟩
  · exact (hget 0).trans h0
  · exact (hget 1).trans h1
  · exact (hget 2).trans h2
  · rw [List.length_append]
    omega

/-- What is found in a part is there in the whole. -/
theorem pointsTo_firstFound {P : Type} {bytes : P → List UInt8} {find : P → Option (ℕ × UInt16)}
    (hfind : ∀ p r, find p = some r → PointsTo (bytes p) r) : ∀ (ps : List P) {r : ℕ × UInt16},
    firstFound bytes find ps = some r → PointsTo (ps.flatMap bytes) r
  | [], _, h => nomatch h
  | p :: ps, r, h => by
    rw [List.flatMap_cons]
    rcases Option.or_eq_some_iff.mp h with hp | ⟨-, hps⟩
    · exact (hfind p r hp).append_right _
    · obtain ⟨r', hr', rfl⟩ := Option.map_eq_some_iff.mp hps
      exact (pointsTo_firstFound hfind ps hr').append_left _

theorem DataBlock.pointsTo_hdmi (b : DataBlock) {r : ℕ × UInt16} (h : b.hdmi = some r) :
    PointsTo b.bytes r := by
  obtain ⟨⟨-, hmarker, hlong⟩, rfl⟩ : (b.tag = 3 ∧ b.payload.take 3 = [0x03, 0x0C, 0x00] ∧
      5 ≤ b.payload.length) ∧ (1, addressOfBytes (b.payload.getD 3 0) (b.payload.getD 4 0)) = r := by
    simpa [hdmi] using h
  have hget : ∀ i < 3, b.payload[i]? = [0x03, 0x0C, 0x00][i]? := by
    intro i hi
    rw [← hmarker, List.getElem?_take_of_lt hi]
  refine ⟨⟨hget 0 (by omega), hget 1 (by omega), hget 2 (by omega), ?_⟩, rfl⟩
  simp only [bytes, List.length_cons]
  omega

theorem CeaExtension.pointsTo_hdmi (x : CeaExtension) {r : ℕ × UInt16} (h : x.hdmi = some r) :
    PointsTo x.bytes r := by
  obtain ⟨r', hr', rfl⟩ := Option.map_eq_some_iff.mp h
  have hblocks := pointsTo_firstFound (fun b _ => b.pointsTo_hdmi) x.blocks hr'
  exact (hblocks.append_left [0x02, x.revision, x.offset, x.flags]).append_right _

namespace Edid

theorem pointsTo_hdmi (e : Edid) {r : ℕ × UInt16} (h : e.hdmi = some r) : PointsTo e.bytes r := by
  obtain ⟨r', hr', rfl⟩ := Option.map_eq_some_iff.mp h
  exact (pointsTo_firstFound (fun x _ => x.pointsTo_hdmi) e.extensions hr').append_left e.base

/-- If `03 0C 00` stands in front of HDMI's identifier, or in an EDID without it, the first one has
    the physical address behind it all the same. -/
def Unmistaken (e : Edid) : Prop :=
  ∀ i, FirstMarker e.bytes i → (∀ r, e.hdmi = some r → i < r.1) →
    addressBehind e.bytes i = e.physicalAddress

/-- The search comes to the physical address iff no other marker misleads it. -/
theorem searchResult_iff (e : Edid) {pa : UInt16} (h : SearchResult e.bytes 0 pa) :
    pa = e.physicalAddress ↔ e.Unmistaken := by
  cases h with
  | marker i _ hat hnone =>
    have hfirst : FirstMarker e.bytes i := ⟨hat, fun j => hnone j (Nat.zero_le j)⟩
    have honly : ∀ j, FirstMarker e.bytes j → j = i := by
      intro j hj
      rcases Nat.lt_trichotomy j i with hlt | heq | hgt
      · exact absurd hj.1 (hfirst.2 j hlt)
      · exact heq
      · exact absurd hat (hj.2 i hgt)
    constructor
    · intro hpa j hj _
      rw [honly j hj, hpa]
    · intro hun
      cases hhdmi : e.hdmi with
      | none => exact hun i hfirst (by simp [hhdmi])
      | some r =>
        obtain ⟨hmarker, haddr⟩ := e.pointsTo_hdmi hhdmi
        by_cases hlt : i < r.1
        · refine hun i hfirst fun r' hr' => ?_
          obtain rfl := Option.some.inj (hhdmi.symm.trans hr')
          exact hlt
        · have heq : i = r.1 := by
            by_contra hne
            exact hfirst.2 r.1 (by omega) hmarker
          rw [heq, haddr, physicalAddress, hhdmi]
          rfl
  | nothing hnone =>
    have hhdmi : e.hdmi = none := by
      by_contra hsome
      obtain ⟨r, hr⟩ := Option.ne_none_iff_exists'.mp hsome
      exact hnone r.1 (Nat.zero_le _) (e.pointsTo_hdmi hr).1
    refine iff_of_true (by rw [physicalAddress, hhdmi]; rfl) fun i hi => ?_
    exact absurd hi.1 (hnone i (Nat.zero_le i))

end Edid

/-- The parser never reads at or past the end of the data, and it returns the physical address of an
    EDID iff no `03 0C 00` misleads it that is not HDMI's identifier. -/
theorem physicalAddressFromEdid_iff (data : Option (List UInt8)) (e : Edid) :
    (getPhysicalAddressFromEDID data).isSome ∧
    ((∃ year, getPhysicalAddressFromEDID (some e.bytes) = some (e.physicalAddress, year)) ↔
      e.Unmistaken) := by
  refine ⟨?_, ?_⟩
  · cases data with
    | none => rfl
    | some data =>
      obtain ⟨pa, year, h, -⟩ := getPhysicalAddressFromEDID_result data
      rw [h]
      rfl
  · obtain ⟨pa, year, h, hresult⟩ := getPhysicalAddressFromEDID_result e.bytes
    rw [← e.searchResult_iff hresult, h]
    constructor
    · rintro ⟨year', hyear⟩
      exact congrArg Prod.fst (Option.some.inj hyear)
    · rintro rfl
      exact ⟨year, rfl⟩

/-- HDMI's data block of a display on the first input. -/
def hdmiBlock : DataBlock := ⟨3, [0x03, 0x0C, 0x00, 0x10, 0x00], by decide⟩

/-- An EDID with that data block, and a base block that carries this serial number. -/
def edidWithSerial (serial : List UInt8) (h : serial.length = 4) (checksum : UInt8) : Edid where
  body := [0x4C, 0x2D, 0x01, 0x00] ++ serial ++ [0x20, 0x1E, 0x01, 0x03] ++ List.replicate 106 0x00
  checksum := checksum
  extensions :=
    [{ revision := 3
       offset := 10
       flags := 0
       blocks := [hdmiBlock]
       timings := List.replicate 117 0x00
       checksum := 0x6D
       full := by decide
       revision_ge := fun _ => by decide
       offset_eq := .inl (by decide) }]
  full := by simp [h]
  fits := by decide

/-- The serial number of a display looks like HDMI's identifier: the last byte of it and the week of
    manufacture are returned in place of the physical address. -/
theorem serialNumber_misleads :
    (edidWithSerial [0x03, 0x0C, 0x00, 0x10] rfl 0x2A).ChecksumsValid ∧
    ¬ ∀ e : Edid,
      ∃ year, getPhysicalAddressFromEDID (some e.bytes) = some (e.physicalAddress, year) := by
  refine ⟨by decide +kernel, fun h => ?_⟩
  obtain ⟨year, hyear⟩ := h (edidWithSerial [0x03, 0x0C, 0x00, 0x10] rfl 0x2A)
  have hwrong : (getPhysicalAddressFromEDID
      (some (edidWithSerial [0x03, 0x0C, 0x00, 0x10] rfl 0x2A).bytes)).map Prod.fst = some 0x1020 := by
    decide +kernel
  have hright : (edidWithSerial [0x03, 0x0C, 0x00, 0x10] rfl 0x2A).physicalAddress = 0x1000 := by
    decide +kernel
  rw [hyear, hright] at hwrong
  have hsame : (0x1000 : UInt16) = 0x1020 := Option.some.inj hwrong
  exact absurd hsame (by decide)

end CEC
