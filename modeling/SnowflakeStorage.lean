import SnowflakeStorage.Python.Basic
import SnowflakeStorage.Python.Dict
import SnowflakeStorage.Python.Xml
import SnowflakeStorage.Python.Url
import SnowflakeStorage.Python.Requests
import SnowflakeStorage.Python.Os
import SnowflakeStorage.Constants
import SnowflakeStorage.S3.Signer
import SnowflakeStorage.S3.Client
import SnowflakeStorage.S3.Authentication
import SnowflakeStorage.Local.Client
import SnowflakeStorage.Reference.SigV4
import SnowflakeStorage.Proofs.Canonical
import SnowflakeStorage.Proofs.Location
import SnowflakeStorage.Proofs.Authentication
import SnowflakeStorage.Proofs.Multipart
import SnowflakeStorage.Proofs.Metadata
import SnowflakeStorage.Proofs.Download
import SnowflakeStorage.Proofs.Responses
import SnowflakeStorage.Proofs.Local
import SnowflakeStorage.Proofs.Stage
import SnowflakeStorage.Proofs.Addressing
import SnowflakeStorage.Proofs.Runs
