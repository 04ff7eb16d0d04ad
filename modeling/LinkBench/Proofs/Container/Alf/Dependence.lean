import LinkBench.Proofs.Container.ByAddress
import LinkBench.Proofs.Container.Alf.BuilderSteps
import LinkBench.Proofs.Container.Alf.Canonical
import LinkBench.Proofs.Container.Alf.Plain

/-!
# What a container depends on

Of an image, the writer sees the entry point and the sections by address. Which list a section
stands in is lost, and so is the order of the lists, as long as no two sections share an address
(`section_order_normalised`). The version decides two words of a container and how its symbol
records end (`encode_versions`); the older version does not see the extra words at all, whatever
else is wrong with the symbols (`encode_kept`).
-/

namespace LinkBench.Alf

/-! ### The order of sections -/

theorem encode_eq_of_byAddress {image other : Image} (hentry : other.entryPoint = image.entryPoint)
    (hsections : other.byAddress = image.byAddress) (version : Version) (symbols : List Symbol) :
    encode version other symbols = encode version image symbols := by
  rw [encode, encode, Builder.callsFor, Builder.callsFor, hentry, hsections]

/-- **Sections are put in order.** There is one way to sort the sections of an image by address that
keeps the order of those with equal addresses. If all addresses differ, two images with the same
sections have the same containers, however the sections are listed. -/
theorem section_order_normalised (image : Image) :
    (∀ sections, StableSort Section.address (image.text ++ image.data ++ image.bss.toList) sections ↔
      sections = image.byAddress) ∧
    ∀ other : Image, other.entryPoint = image.entryPoint →
      (other.text ++ other.data ++ other.bss.toList).Perm
        (image.text ++ image.data ++ image.bss.toList) →
      ((image.text ++ image.data ++ image.bss.toList).map Section.address).Nodup →
      ∀ version symbols, encode version other symbols = encode version image symbols := by
  constructor
  · intro sections
    constructor
    · intro hsorted
      exact hsorted.unique image.stableSort_byAddress
    · rintro rfl
      exact image.stableSort_byAddress
  · intro other hentry hperm haddresses
    exact encode_eq_of_byAddress hentry (Image.byAddress_eq_of_perm hperm haddresses)

theorem section_order_normalised_across_lists :
    let low : Section := ⟨0x80000000, .stored [1, 2, 3, 4], ⟨by decide, by decide, by decide⟩⟩
    let middle : Section := ⟨0x80001000, .stored [5, 6, 7, 8], ⟨by decide, by decide, by decide⟩⟩
    let high : Section := ⟨0x80002000, .stored [9, 9, 9, 9], ⟨by decide, by decide, by decide⟩⟩
    let bss : Section := ⟨0x80003000, .zeroed 8, ⟨by decide, by decide, by decide⟩⟩
    let image : Image :=
      ⟨0x80001000, [low, middle], [high], some bss, by decide, by decide, by decide⟩
    let other : Image :=
      ⟨0x80001000, [high], [middle, low], some bss, by decide, by decide, by decide⟩
    (∀ sections, StableSort Section.address (image.text ++ image.data ++ image.bss.toList) sections ↔
      sections = image.byAddress) ∧
    other.entryPoint = image.entryPoint ∧
    (other.text ++ other.data ++ other.bss.toList).Perm
      (image.text ++ image.data ++ image.bss.toList) ∧
    ((image.text ++ image.data ++ image.bss.toList).map Section.address).Nodup ∧
    ∀ version symbols, encode version other symbols = encode version image symbols := by
  intro low middle high bss image other
  have hperm : (other.text ++ other.data ++ other.bss.toList).Perm
      (image.text ++ image.data ++ image.bss.toList) := by decide
  have haddresses : ((image.text ++ image.data ++ image.bss.toList).map Section.address).Nodup := by
    decide
  obtain ⟨hsorted, hsame⟩ := section_order_normalised image
  exact ⟨hsorted, rfl, hperm, haddresses, hsame other rfl hperm haddresses⟩

/-! ### What the older version does not see -/

namespace Builder

def Call.kept (version : Version) : Call → Call
  | .pushSymbol symbol => .pushSymbol (version.kept symbol)
  | call => call

theorem appendSymbol_kept (b : Builder) (symbol : Symbol) :
    b.appendSymbol (b.version.kept symbol) = b.appendSymbol symbol := by
  obtain ⟨version, sectionCount, bytes, sectionsPushed, table⟩ := b
  cases version <;> rfl

theorem pushSymbolInto_kept (b : Builder) (table : SymbolTable) (symbol : Symbol) :
    b.pushSymbolInto table (b.version.kept symbol) = b.pushSymbolInto table symbol := by
  have happend := appendSymbol_kept
    { b with table := some { table with pushed := table.pushed + 1 } } symbol
  unfold pushSymbolInto
  simp only [happend]

theorem pushSymbol_kept (b : Builder) (symbol : Symbol) :
    b.pushSymbol (b.version.kept symbol) = b.pushSymbol symbol := by
  cases htable : b.table with
  | some table => rw [pushSymbol_of_table htable, pushSymbol_of_table htable, pushSymbolInto_kept]
  | none =>
    by_cases hfull : b.sectionsPushed = b.sectionCount
    · have hversion : (b.beginSymbolTable 0).2.version = b.version :=
        (performs b (.beginSymbolTable 0)).version_eq
      rw [pushSymbol_of_none htable hfull, pushSymbol_of_none htable hfull, ← hversion,
        pushSymbolInto_kept]
    · rw [pushSymbol_of_ne htable hfull, pushSymbol_of_ne htable hfull]

theorem perform_kept (b : Builder) (call : Call) :
    b.perform (call.kept b.version) = b.perform call := by
  cases call with
  | pushSection address size payload => rfl
  | beginSymbolTable count => rfl
  | pushSymbol symbol => exact b.pushSymbol_kept symbol

theorem performUntilError_kept (b : Builder) (calls : List Call) :
    b.performUntilError (calls.map (.kept b.version)) = b.performUntilError calls := by
  induction calls generalizing b with
  | nil => rfl
  | cons call rest ih =>
    have hversion := (performs b call).version_eq
    rw [List.map_cons, performUntilError, performUntilError, perform_kept]
    cases hperform : b.perform call with
    | mk result b' =>
      rw [hperform] at hversion
      cases result with
      | error e => rfl
      | ok _ =>
        -- No call changes the version, so what follows is kept in the same way.
        rw [← hversion]
        exact ih b'

end Builder

/-- What a version does not store does not matter to it, even if the symbols have no container. -/
theorem encode_kept (version : Version) (image : Image) (symbols : List Symbol) :
    encode version image (symbols.map version.kept) = encode version image symbols := by
  have hcalls : Builder.callsFor image (symbols.map version.kept) =
      (Builder.callsFor image symbols).map (.kept version) := by
    simp only [Builder.callsFor, List.map_append, List.map_cons, List.map_map, List.length_map]
    rfl
  rw [encode, encode, hcalls, List.length_map]
  exact congrArg _ (congrArg (· >>= Builder.finish) (Builder.performUntilError_kept _ _))

/-! ### The two versions -/

/-- The records of symbols in the older version. -/
def olderRecords (symbols : List Symbol) : List Bytes :=
  symbols.map fun y => symbolRecord .v104 y (dataFlag y)

/-- Each record with the extra word of its symbol behind it. -/
def widenRecords (records : List Bytes) (symbols : List Symbol) : List Bytes :=
  List.zipWith (fun record y => record ++ Word.toLittleEndian y.extra) records symbols

/-- Everything in front of the length of the symbol block, with any version word. -/
def frontWith (image : Image) (versionWord : UInt32) : Bytes :=
  Word.toLittleEndian magic ++ (Word.toLittleEndian versionWord ++
  (Word.toLittleEndian image.entryPoint ++
  Word.toLittleEndian (UInt32.ofNat image.byAddress.length) ++
  image.byAddress.flatMap Section.entry))

/-- What the version does not decide about the container of an image with `count` symbols; the
version word, the length of the symbol block and the records in it are left open. -/
def framed (image : Image) (count : Nat) (versionWord lengthWord : UInt32) (records : List Bytes) :
    Bytes :=
  frontWith image versionWord ++
  (Word.toLittleEndian lengthWord ++ (Word.toLittleEndian (UInt32.ofNat count) ++
  (records.flatten ++ (Word.toLittleEndian 0 ++ Word.toLittleEndian 0))))

theorem length_frontWith (image : Image) (versionWord : UInt32) :
    (frontWith image versionWord).length = blockLengthPosition image := by
  simp only [frontWith, blockLengthPosition, List.length_append, Word.length_toLittleEndian,
    List.length_flatMap, Section.length_entry]
  omega

theorem plain_eq_framed (version : Version) (image : Image) (symbols : List Symbol) :
    plain version image symbols = framed image symbols.length version.raw
      (UInt32.ofNat (symbolBlock version symbols).length)
      (symbols.map fun y => symbolRecord version y (dataFlag y)) := by
  simp only [plain, plainFront, symbolBlock, writtenRecords, framed, frontWith, List.flatMap_def,
    List.append_assoc]

theorem records_newer (symbols : List Symbol) :
    (symbols.map fun y => symbolRecord .v105 y (dataFlag y)) =
      widenRecords (olderRecords symbols) symbols := by
  have hrecord : ∀ y, symbolRecord .v105 y (dataFlag y) =
      symbolRecord .v104 y (dataFlag y) ++ Word.toLittleEndian y.extra := by
    intro y
    simp only [symbolRecord, symbolRest, Version.hasSymbolExtra, if_true, Bool.false_eq_true,
      if_false, List.append_nil, List.append_assoc]
  rw [widenRecords, olderRecords, List.zipWith_map_left, List.zipWith_self]
  exact List.map_congr_left fun y _ => hrecord y

theorem length_flatten_widenRecords (symbols : List Symbol) :
    (widenRecords (olderRecords symbols) symbols).flatten.length =
      (olderRecords symbols).flatten.length + 4 * symbols.length := by
  induction symbols with
  | nil => rfl
  | cons y rest ih =>
    simp only [widenRecords, olderRecords, List.map_cons, List.zipWith_cons_cons, List.flatten_cons,
      List.length_append, Word.length_toLittleEndian, List.length_cons] at ih ⊢
    omega

theorem length_symbolBlock (version : Version) (symbols : List Symbol) :
    (symbolBlock version symbols).length =
      4 + (symbols.map fun y => symbolRecord version y (dataFlag y)).flatten.length := by
  rw [symbolBlock, List.length_append, Word.length_toLittleEndian, writtenRecords, List.flatMap_def]

section Framed

variable (image : Image) (count : Nat) (versionWord lengthWord : UInt32) (records : List Bytes)

theorem length_framed : (framed image count versionWord lengthWord records).length =
    blockLengthPosition image + 16 + records.flatten.length := by
  simp only [framed, List.length_append, length_frontWith, Word.length_toLittleEndian]
  omega

theorem lengthWord_framed :
    ((framed image count versionWord lengthWord records).drop (blockLengthPosition image)).take 4 =
      Word.toLittleEndian lengthWord :=
  drop_take_append (length_frontWith image versionWord) rfl

/-- In front of the length word, only the version word is left open. -/
theorem getElem?_framed {count' : Nat} {versionWord' lengthWord' : UInt32} {records' : List Bytes}
    {p : Nat} (hp : p < blockLengthPosition image) (hversion : ¬(4 ≤ p ∧ p < 8)) :
    (framed image count' versionWord' lengthWord' records')[p]? =
      (framed image count versionWord lengthWord records)[p]? := by
  have hfront : ∀ w, p < (frontWith image w).length := by
    intro w
    rwa [length_frontWith]
  have houtside : p < 4 ∨ 4 + 4 ≤ p := by omega
  rw [framed, framed, List.getElem?_append_left (hfront _), List.getElem?_append_left (hfront _)]
  exact getElem?_outside_word _ rfl rfl rfl rfl houtside

end Framed

/-- The containers of an image and its symbols in the two versions. -/
structure TwoVersions (image : Image) (symbols : List Symbol) (older newer : Bytes) : Prop where
  older_eq : older = framed image symbols.length 104
    (UInt32.ofNat (symbolBlock .v104 symbols).length) (olderRecords symbols)
  newer_eq : newer = framed image symbols.length 105
    (UInt32.ofNat ((symbolBlock .v104 symbols).length + 4 * symbols.length))
    (widenRecords (olderRecords symbols) symbols)
  lengthWord_lt : (symbolBlock .v104 symbols).length + 4 * symbols.length < wordLimit
  length_eq : newer.length = older.length + 4 * symbols.length
  lengthWords : (older.drop (blockLengthPosition image)).take 4 =
      Word.toLittleEndian (UInt32.ofNat (symbolBlock .v104 symbols).length) ∧
    (newer.drop (blockLengthPosition image)).take 4 =
      Word.toLittleEndian (UInt32.ofNat ((symbolBlock .v104 symbols).length + 4 * symbols.length))
  front_eq : ∀ p < blockLengthPosition image, ¬(4 ≤ p ∧ p < 8) → newer[p]? = older[p]?

theorem twoVersions_plain {image : Image} {symbols : List Symbol}
    (hlength : (plain .v105 image symbols).length < wordLimit) :
    TwoVersions image symbols (plain .v104 image symbols) (plain .v105 image symbols) := by
  have hnewerBlock : (symbolBlock .v105 symbols).length =
      (symbolBlock .v104 symbols).length + 4 * symbols.length := by
    rw [length_symbolBlock, records_newer, length_flatten_widenRecords, length_symbolBlock,
      olderRecords, Nat.add_assoc]
  have holder : plain .v104 image symbols = framed image symbols.length 104
      (UInt32.ofNat (symbolBlock .v104 symbols).length) (olderRecords symbols) :=
    plain_eq_framed .v104 image symbols
  have hnewer : plain .v105 image symbols = framed image symbols.length 105
      (UInt32.ofNat ((symbolBlock .v104 symbols).length + 4 * symbols.length))
      (widenRecords (olderRecords symbols) symbols) := by
    rw [plain_eq_framed, hnewerBlock, records_newer]
    rfl
  have hlonger : (plain .v105 image symbols).length =
      (plain .v104 image symbols).length + 4 * symbols.length := by
    rw [holder, hnewer, length_framed, length_framed, length_flatten_widenRecords]
    omega
  refine ⟨holder, hnewer, ?_, hlonger, ⟨?_, ?_⟩, ?_⟩
  · have hrecords : (symbolBlock .v104 symbols).length =
        4 + (olderRecords symbols).flatten.length :=
      length_symbolBlock .v104 symbols
    rw [hlonger, holder, length_framed] at hlength
    omega
  · rw [holder, lengthWord_framed]
  · rw [hnewer, lengthWord_framed]
  · intro p hp hversion
    rw [holder, hnewer]
    exact getElem?_framed image _ _ _ _ hp hversion

theorem map_kept_older {symbols : List Symbol} {extras : List UInt32}
    (hextras : extras.length = symbols.length) :
    (List.zipWith (fun y extra => { y with extra }) symbols extras).map Version.v104.kept =
      symbols.map Version.v104.kept := by
  induction symbols generalizing extras with
  | nil => simp
  | cons y rest ih =>
    cases extras with
    | nil => cases hextras
    | cons extra extras =>
      rw [List.zipWith_cons_cons, List.map_cons, List.map_cons, ih (Nat.succ.inj hextras)]
      rfl

/-- **The versions of a container.** If the container of the newer version stays below the limit of
a word, both are written. They differ in the version word, in the length of the symbol block, and in
the extra word behind each symbol record, which alone makes the newer one longer. The older one is
the same whatever extra words the symbols have. -/
theorem encode_versions {image : Image} {symbols : List Symbol}
    (hlength : (plain .v105 image symbols).length < wordLimit) :
    ∃ older newer, encode .v104 image symbols = .ok older ∧ encode .v105 image symbols = .ok newer ∧
      TwoVersions image symbols older newer ∧
      ∀ extras : List UInt32, extras.length = symbols.length →
        encode .v104 image (List.zipWith (fun y extra => { y with extra }) symbols extras) =
          .ok older := by
  have htwo := twoVersions_plain hlength
  have hshorter : (plain .v104 image symbols).length < wordLimit := by
    have hlonger := htwo.length_eq
    omega
  have hencode : ∀ version, (plain version image symbols).length < wordLimit →
      encode version image symbols = .ok (plain version image symbols) := by
    intro version h
    rw [encode_ofImage (by rwa [← length_plain]), written_ofImage]
  refine ⟨_, _, hencode .v104 hshorter, hencode .v105 hlength, htwo, fun extras hextras => ?_⟩
  rw [← encode_kept, map_kept_older hextras, encode_kept, hencode .v104 hshorter]

theorem encode_versions_of_two_symbols :
    let image : Image := {
      entryPoint := 0x80001000
      text := [⟨0x80001000, .stored [1, 2, 3, 4], ⟨by decide, by decide, by decide⟩⟩]
      data := []
      bss := some ⟨0x80000000, .zeroed 8, ⟨by decide, by decide, by decide⟩⟩
      text_stored := by decide
      data_stored := by decide
      bss_zeroed := by decide }
    let symbols : List Symbol := [⟨[102], [102, 40, 41], 0x80001000, 4, true, 1, 7⟩,
      ⟨[103], [], 0x80000000, 8, false, 0, 0xffffffff⟩]
    let changed : List Symbol := [⟨[102], [102, 40, 41], 0x80001000, 4, true, 1, 8⟩,
      ⟨[103], [], 0x80000000, 8, false, 0, 0⟩]
    (plain .v105 image symbols).length < wordLimit ∧
    ∃ older newer, encode .v104 image symbols = .ok older ∧ encode .v105 image symbols = .ok newer ∧
      TwoVersions image symbols older newer ∧ encode .v104 image changed = .ok older := by
  intro image symbols changed
  have hlength : (plain .v105 image symbols).length < wordLimit := by
    rw [length_plain]
    decide
  obtain ⟨older, newer, holder, hnewer, htwo, hchanged⟩ := encode_versions hlength
  exact ⟨hlength, older, newer, holder, hnewer, htwo, hchanged [8, 0] rfl⟩

end LinkBench.Alf
