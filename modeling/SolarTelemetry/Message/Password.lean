import SolarTelemetry.Error

/-!
# Passwords

A password is sent as twelve octets, each combined with the key of its user group; what a shorter
password leaves over is filled with the bare key.
-/

namespace SolarTelemetry

inductive UserGroup where
  | user
  | installer
  deriving DecidableEq, Repr, Inhabited

namespace UserGroup

def code : UserGroup → UInt32
  | .user => 0x07
  | .installer => 0x0A

def key : UserGroup → UInt8
  | .user => 0x88
  | .installer => 0xBB

def name : UserGroup → String
  | .user => "User"
  | .installer => "Installer"

end UserGroup

namespace Password

def length : Nat := 12

/-- The length of a password is that of its octets. -/
def encode (who : UserGroup) (password : String) : Except LogonError Bytes :=
  let octets := password.toUTF8.toList
  if length < octets.length then .error (.passwordTooLong length)
  else .ok (octets.map (· ^^^ who.key) ++ List.replicate (length - octets.length) who.key)

end Password

end SolarTelemetry
