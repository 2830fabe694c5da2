import M3Midi.Foundation.ByteCodec
import M3Midi.Parameter.Contract

/-! # The state image

A project stores a configuration as a header with a checksum and one record per
field: the parameter's identifier and the bits of its value. Reading an image
applies the records in order to the default configuration.
-/

namespace M3Midi

open Foundation

/-- The size of the header of a state. -/
def stateHeaderSize : Nat := 16

/-- The size of the record of a field. -/
def stateRecordSize : Nat := 12

/-- The size of all records. -/
def statePayloadSize : Nat := 168

/-- Bytes of an image (`kStateSize`). -/
def stateSize : Nat := 184

/-- The version of a state. -/
def stateVersion : Nat := 1

/-- The letters `M3PA`. -/
def stateMagic : List Byte := [0x4D, 0x33, 0x50, 0x41]

/-- The record of a field whose value lies in the parameter's range. -/
def encodeRecord (config : PersistentConfig) (field : PersistentField) : Option (List Byte) :=
  (findParameter field.id).bind fun spec =>
    let value := fieldValue config field
    if value < spec.minimum ∨ value > spec.maximum then none
    else some (toBytes 4 field.id ++ toBytes 8 (bitsOfDouble value))

/-- The image of a configuration, if its values are in range. -/
def encodeState (config : PersistentConfig) : Option (List Byte) :=
  (PersistentField.all.mapM (encodeRecord config)).map fun records =>
    stateMagic ++ toBytes 2 stateVersion ++ toBytes 2 PersistentField.all.length ++
      toBytes 4 statePayloadSize ++ toBytes 4 (crc32 records.flatten).toNat ++ records.flatten

/-- Apply the records of the fields that remain. -/
def decodeRecords : List PersistentField → List Byte → PersistentConfig → Option PersistentConfig
  | [], _, candidate => some candidate
  | field :: fields, records, candidate =>
      if wordAt records 0 4 ≠ field.id then none
      else match doubleOfBits (wordAt records 4 8) with
        | none => none
        | some value =>
            match applyParameter candidate field.id (some value) with
            | (.rejected, _) | (.panic, _) => none
            | (_, next) => decodeRecords fields (records.drop stateRecordSize) next

/-- The configuration of an image, if its header, its checksum and its records are valid. -/
def decodeState (bytes : List Byte) : Option PersistentConfig :=
  let payload := bytes.drop stateHeaderSize
  if bytes.length ≠ stateSize ∨ bytes.take 4 ≠ stateMagic ∨ wordAt bytes 4 2 ≠ stateVersion ∨
      wordAt bytes 6 2 ≠ PersistentField.all.length ∨ wordAt bytes 8 4 ≠ statePayloadSize ∨
      wordAt bytes 12 4 ≠ (crc32 payload).toNat then
    none
  else decodeRecords PersistentField.all payload {}

end M3Midi
