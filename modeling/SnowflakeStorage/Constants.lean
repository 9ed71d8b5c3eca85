import SnowflakeStorage.Python.Basic

/-!
# Records of `constants.py` and `encryption_util.py`

The values both storage clients write into a file's metadata: the status of the transfer,
and what `get_file_header` reports of an object.
-/

namespace SnowflakeStorage

/-- The values of `constants.ResultStatus` the clients assign. -/
inductive ResultStatus where
  | uploaded
  | downloaded
  | notFoundFile
  deriving DecidableEq, Repr

/-- `encryption_util.EncryptionMetadata`.  Its fields are whatever the caller or a response
put there, `None` included. -/
structure EncryptionMetadata where
  key : Option PyStr
  iv : Option PyStr
  matdesc : Option PyStr
  deriving DecidableEq, Repr

/-- `constants.FileHeader`. -/
structure FileHeader where
  digest : Option PyStr
  contentLength : Int
  encryptionMetadata : Option EncryptionMetadata
  deriving DecidableEq, Repr

end SnowflakeStorage
