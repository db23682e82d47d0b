import GreenPower.Security

set_option autoImplicit false

/-!
`gpd-nv.c` with the application's save-and-load callback: a shadow array in RAM laid out as

    0 -- 3 FC | 4 -- 19 KEY | 20 SecL | 21 SecT | 22 Ch | 23 State | 24 -- 31 Reserved

and one flash object that holds its image. A flash save is one event: it happens whole or
not at all. The callback's endless loops on a flash fault are left out, as the flash here
answers every call.
-/
namespace GreenPower.NonVolatile
open MemoryArray ByteWord BuildOptions DeviceState Security

def image (cell : Cells UInt8) : NvImage := Vector.ofFn (fun i => cell i.val)

def nvStore (origin : SaveOrigin) (s : Device) : Device :=
  s.record (.flashSave origin (image s.gpdNvData))

def emberGpdSaveGpdFrameCounterToNV (frameCounter : UInt32) (s : Device) : Device :=
  let gpdNvData := store s.gpdNvData nvDataFrameCounterIndex (copy4Bytes frameCounter)
  nvStore .frameCounter { s with gpdNvData := gpdNvData }

def shadowOf (gpd : EmberGpd) (gpdNvData : Cells UInt8) : Cells UInt8 :=
  let d := store gpdNvData 0 (copy4Bytes gpd.securityFrameCounter)
  let d := store d nvDataKeyIndex gpd.securityKey.toList
  let d := store d nvDataSecLevelIndex [gpd.securityLevel]
  let d := store d nvDataSecKeyTypeIndex [gpd.securityKeyType]
  let d := store d nvDataChannelIndex [gpd.channel]
  store d nvDataStateIndex [gpd.gpdState]

def emberGpdCopyToShadow (s : Device) : Device :=
  { s with gpdNvData := shadowOf s.gpdNode s.gpdNvData }

def emberGpdStoreSecDataToNV (s : Device) : Device :=
  nvStore (.secData s.gpdNode) (emberGpdCopyToShadow s)

/-- The callback with `EMEBER_GPD_AF_CALLBACK_LOAD_GPD_FROM_NVM`: a missing object means a
fresh chip, which gets the current values written. -/
def nvLoad (s : Device) : Device :=
  match flash s.log with
  | some img => { s with gpdNvData := store s.gpdNvData 0 img.toList }
  | none => nvStore .freshChip (emberGpdCopyToShadow (s.record .flashErase))

def counterOf (cell : Cells UInt8) : UInt32 := readWord cell nvDataFrameCounterIndex

def secDataOf (cell : Cells UInt8) : SecData where
  securityKey := keyOfBytes (load cell nvDataKeyIndex keyLength)
  securityLevel := cell nvDataSecLevelIndex
  securityKeyType := cell nvDataSecKeyTypeIndex
  channel := cell nvDataChannelIndex
  gpdState := cell nvDataStateIndex

def setSecData (gpd : EmberGpd) (d : SecData) : EmberGpd :=
  { gpd with
    securityKey := d.securityKey
    securityLevel := d.securityLevel
    securityKeyType := d.securityKeyType
    channel := d.channel
    gpdState := d.gpdState }

def emberGpdLoadSecDataFromNV (s : Device) : Device :=
  let s := nvLoad s
  let gpd := setSecData s.gpdNode (secDataOf s.gpdNvData)
  { s with gpdNode := { gpd with securityFrameCounter := counterOf s.gpdNvData } }

def imageCell (img : NvImage) : Cells UInt8 := fun i => img.toList.getD i 0

theorem imageCell_image (cell : Cells UInt8) (i : ℕ) (hi : i < 32) :
    imageCell (image cell) i = cell i := by
  simp [image, imageCell, hi]

theorem store_image (cell f : Cells UInt8) (i : ℕ) (hi : i < 32) :
    store f 0 (image cell).toList i = cell i := by
  rw [store_at f 0 (image cell).toList i i (by simpa using hi) (by omega)]
  simp [image]

theorem counterOf_congr {f g : Cells UInt8} (h : ∀ i < 32, f i = g i) :
    counterOf f = counterOf g :=
  congrArg word32 (load_congr (fun i _ hi => h i (by
    simp only [nvDataFrameCounterIndex] at hi
    omega)))

theorem secDataOf_congr {f g : Cells UInt8} (h : ∀ i < 32, f i = g i) :
    secDataOf f = secDataOf g := by
  have key : load f nvDataKeyIndex keyLength = load g nvDataKeyIndex keyLength :=
    load_congr (fun i _ hi => h i (by simp only [nvDataKeyIndex, keyLength] at hi; omega))
  simp only [secDataOf, key, h nvDataSecLevelIndex (by decide), h nvDataSecKeyTypeIndex (by decide),
    h nvDataChannelIndex (by decide), h nvDataStateIndex (by decide)]

theorem counterOf_store (f : Cells UInt8) (c : UInt32) :
    counterOf (store f nvDataFrameCounterIndex (copy4Bytes c)) = c := by
  unfold counterOf readWord
  rw [← copy4Bytes_length c, load_store_same, word32_copy4Bytes]

theorem secDataOf_store_counter (f : Cells UInt8) (c : UInt32) :
    secDataOf (store f nvDataFrameCounterIndex (copy4Bytes c)) = secDataOf f := by
  have apart (i : ℕ) (hi : 4 ≤ i) : store f nvDataFrameCounterIndex (copy4Bytes c) i = f i :=
    store_outside f _ _ i (Or.inr (by simpa [nvDataFrameCounterIndex] using hi))
  have key : load (store f nvDataFrameCounterIndex (copy4Bytes c)) nvDataKeyIndex keyLength =
      load f nvDataKeyIndex keyLength :=
    load_congr (fun i lo _ => apart i lo)
  simp only [secDataOf, key, apart nvDataSecLevelIndex (by decide),
    apart nvDataSecKeyTypeIndex (by decide), apart nvDataChannelIndex (by decide),
    apart nvDataStateIndex (by decide)]

theorem counterOf_shadow (gpd : EmberGpd) (f : Cells UInt8) :
    counterOf (shadowOf gpd f) = gpd.securityFrameCounter := by
  unfold shadowOf counterOf readWord
  rw [load_store_apart _ _ _ _ _ (by simp [nvDataFrameCounterIndex, nvDataStateIndex]),
    load_store_apart _ _ _ _ _ (by simp [nvDataFrameCounterIndex, nvDataChannelIndex]),
    load_store_apart _ _ _ _ _ (by simp [nvDataFrameCounterIndex, nvDataSecKeyTypeIndex]),
    load_store_apart _ _ _ _ _ (by simp [nvDataFrameCounterIndex, nvDataSecLevelIndex]),
    load_store_apart _ _ _ _ _ (by simp [nvDataFrameCounterIndex, nvDataKeyIndex])]
  exact counterOf_store f gpd.securityFrameCounter

theorem secDataOf_shadow (gpd : EmberGpd) (f : Cells UInt8) :
    secDataOf (shadowOf gpd f) = gpd.secData := by
  have key : load (shadowOf gpd f) nvDataKeyIndex keyLength = gpd.securityKey.toList := by
    unfold shadowOf
    rw [load_store_apart _ _ _ _ _ (by simp [keyLength, nvDataKeyIndex, nvDataStateIndex]),
      load_store_apart _ _ _ _ _ (by simp [keyLength, nvDataKeyIndex, nvDataChannelIndex]),
      load_store_apart _ _ _ _ _ (by simp [keyLength, nvDataKeyIndex, nvDataSecKeyTypeIndex]),
      load_store_apart _ _ _ _ _ (by simp [keyLength, nvDataKeyIndex, nvDataSecLevelIndex])]
    have h := load_store_same (store f 0 (copy4Bytes gpd.securityFrameCounter)) nvDataKeyIndex
      gpd.securityKey.toList
    simpa [keyLength] using h
  simp only [secDataOf, key, keyOfBytes_toList, EmberGpd.secData, SecData.mk.injEq, true_and]
  simp [shadowOf, store, nvDataSecLevelIndex, nvDataSecKeyTypeIndex, nvDataChannelIndex,
    nvDataStateIndex]

end GreenPower.NonVolatile
