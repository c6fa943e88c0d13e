import Squitter.Format
import Squitter.Packet
import Squitter.Text.Decimal
import Squitter.Text.Quoted

/-!
# Errors

What can go wrong, by cause. Each type has one function `message` that words the cause:
`CodecError` for a message of a peer that breaks the protocol, `ConfigError` for a setting or
endpoint that cannot be used, `IoError` for what the operating system refuses, and `Error` for all
of them.
-/

namespace Squitter

/-! ## Messages of peers -/

/-- Why a message cannot be accepted or written. -/
inductive CodecError
  | badMagic (magic : String)
  | unusableClock (mhz : UInt32) (width : UInt64) (ceiling : UInt32)
  | packetBeforeHeader
  | payloadLength (kind : Kind) (length : Nat)
  | rssiAboveCeiling (level : UInt64) (ceiling : UInt32)
  | messageTooLarge (length : Nat)
deriving DecidableEq

/-- The wording of a refusal. -/
def CodecError.message : CodecError → String
  | badMagic magic => "bad header magic " ++ Text.quote magic
  | unusableClock mhz width ceiling =>
    "unusable clock in header: " ++ Decimal.text mhz.toNat ++ " MHz, max " ++
      Decimal.text width.toNat ++ ", rssi max " ++ Decimal.text ceiling.toNat
  | packetBeforeHeader => "packet before header"
  | payloadLength kind length =>
    kind.name ++ " payload of " ++ Decimal.text length ++ " bytes"
  | rssiAboveCeiling level ceiling =>
    "rssi " ++ Decimal.text level.toNat ++ " above announced max " ++ Decimal.text ceiling.toNat
  | messageTooLarge length => "message of " ++ Decimal.text length ++ " bytes too large"

/-! ## Settings and endpoints -/

/-- What is wrong with the value of an endpoint flag. -/
inductive ValueError
  | noFormat
  | unknownFormat (name : String)
  | noHostPort
  | noPort
  | noPath
  | noCommand
deriving DecidableEq

/-- The wording of what a value lacks. -/
def ValueError.message : ValueError → String
  | noFormat => "expected FORMAT=..."
  | unknownFormat name =>
    "unknown format " ++ Text.quote name ++ " (expected one of: " ++
      String.intercalate ", " (Format.all.map Format.name) ++ ")"
  | noHostPort => "expected HOST/PORT"
  | noPort => "expected [HOST/]PORT"
  | noPath => "expected PATH"
  | noCommand => "expected COMMAND"

/-- Why the configuration cannot be used. -/
inductive ConfigError
  | unknownFlag (flag : String)
  | badValue (flag value : String) (why : ValueError)
  | badMaxHops (text : String)
deriving DecidableEq

/-- The environment variable that overrides the hop limit. -/
def maxHopsVariable : String := "ADSBUS_MAX_HOPS"

/-- The wording of a configuration error. -/
def ConfigError.message : ConfigError → String
  | unknownFlag flag => "unknown endpoint flag --" ++ flag
  | badValue flag value why => "--" ++ flag ++ "=" ++ value ++ ": " ++ why.message
  | badMaxHops text =>
    maxHopsVariable ++ " must be a positive integer, got " ++ Text.quote text

/-! ## The operating system -/

/-- Why an operation on a stream, file or address failed. -/
inductive IoError
  | bufferFull (capacity : Nat)
  | writeZero
  | invalidPort (text : String)
  | nulInName
  | unknownHost
  | noAddresses
  | noSuchEntry
  | badDescriptor
  | wouldBlock
  | alreadyExists
  | notDirectory
  | isDirectory
  | brokenPipe
  | tooManyLinks
  | addressInUse
  | addressUnavailable
  | networkUnreachable
  | connectionReset
  | notConnected
  | connectionRefused
deriving DecidableEq

/-- The wording of an operating system's refusal, with its number. -/
def IoError.message : IoError → String
  | bufferFull capacity =>
    "buffer full (" ++ Decimal.text capacity ++ " bytes) with no parseable frame"
  | writeZero => "failed to write whole buffer"
  | invalidPort text => "invalid port " ++ Text.quote text
  | nulInName => "file name contained an unexpected NUL byte"
  | unknownHost => "failed to lookup address information: Name or service not known"
  | noAddresses => "no addresses"
  | noSuchEntry => "No such file or directory (os error 2)"
  | badDescriptor => "Bad file descriptor (os error 9)"
  | wouldBlock => "Resource temporarily unavailable (os error 11)"
  | alreadyExists => "File exists (os error 17)"
  | notDirectory => "Not a directory (os error 20)"
  | isDirectory => "Is a directory (os error 21)"
  | brokenPipe => "Broken pipe (os error 32)"
  | tooManyLinks => "Too many levels of symbolic links (os error 40)"
  | addressInUse => "Address already in use (os error 98)"
  | addressUnavailable => "Cannot assign requested address (os error 99)"
  | networkUnreachable => "Network is unreachable (os error 101)"
  | connectionReset => "Connection reset by peer (os error 104)"
  | notConnected => "Transport endpoint is not connected (os error 107)"
  | connectionRefused => "Connection refused (os error 111)"

/-! ## All errors -/

/-- Any error. -/
inductive Error
  | invalidHex (text : String)
  | underflow (requested available : Nat)
  | unknownFormat (name : String)
  | codec (cause : CodecError)
  | selfLoop (id : Uuid)
  | io (cause : IoError)
  | config (cause : ConfigError)
deriving DecidableEq

/-- The wording of an error. -/
def Error.message : Error → String
  | invalidHex text => "invalid hex string: " ++ text
  | underflow requested available =>
    "buffer underflow: asked to consume " ++ Decimal.text requested ++ " bytes, " ++
      Decimal.text available ++ " buffered"
  | unknownFormat name => "unknown format: " ++ name
  | codec cause => "codec error: " ++ cause.message
  | selfLoop id =>
    "peer announced our own server id " ++ id.text ++ "; refusing to loop"
  | io cause => "IO error: " ++ cause.message
  | config cause => "config error: " ++ cause.message

end Squitter
