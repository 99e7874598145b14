import DocSchema.Text.Base16
import DocSchema.Text.Percent
import DocSchema.Text.Split

/-!
# DocSchema.Server.Address

Addresses of servers: a host with or without a port, where a host in brackets is an address of IPv6,
or the path of a socket.
-/

namespace DocSchema.Server

/-- The address of a server. -/
inductive Address where
  | host (name : String) (port : Option Nat)
  | socket (path : String)
deriving DecidableEq, Repr

/-- What is wrong with an address. -/
inductive AddressFault where
  | emptyHost
  | badPort (port : String)
  /-- A host that begins with a bracket has no bracket at its end. -/
  | openBracket
  /-- What stands in brackets is no address of IPv6. -/
  | badLiteral
  /-- Something other than a port stands after the bracket at the end of a host. -/
  | afterBracket (rest : String)
deriving DecidableEq, Repr

/-- How a message says what is wrong with an address. -/
def AddressFault.message : AddressFault → String
  | .emptyHost => "the hostname cannot be empty"
  | .badPort port => "the port must be an integer between 1 and 65535, got " ++ port
  | .openBracket => "missing closing ']' in IP literal hostname"
  | .badLiteral => "invalid IPv6 address syntax"
  | .afterBracket rest =>
    "the hostname can only be followed by a port prefixed with ':', got " ++ rest

/-! ## Numeric addresses -/

/-- Whether a text is one of the four numbers of an address of IPv4: below 256, without a leading
zero. -/
def isOctet (cs : List Char) : Bool :=
  !cs.isEmpty && cs.all Char.isDigit && cs.length ≤ 3 && (cs.length == 1 || cs.head? != some '0') &&
    (Text.unsigned? 256 cs).isSome

/-- Whether a text is an address of IPv4. -/
def isIPv4 (cs : List Char) : Bool :=
  let octets := Text.splitAll '.' cs
  octets.length == 4 && octets.all isOctet

/-- Whether a text is a group of an address of IPv6: up to four digits of base 16. -/
def isGroup (cs : List Char) : Bool :=
  !cs.isEmpty && cs.length ≤ 4 && cs.all fun c => (Text.hexValue? c).isSome

/-- The number of groups that parts between colons amount to. An address of IPv4 at the end counts
as two groups. -/
def groupCount? (endsInIPv4 : Bool) : List (List Char) → Option Nat
  | [] => some 0
  | [part] => if isGroup part then some 1 else if endsInIPv4 && isIPv4 part then some 2 else none
  | part :: parts => if isGroup part then (groupCount? endsInIPv4 parts).map (· + 1) else none

/-- The number of groups on one side of a gap. -/
def sideCount? (endsInIPv4 : Bool) (cs : List Char) : Option Nat :=
  if cs.isEmpty then some 0 else groupCount? endsInIPv4 (Text.splitAll ':' cs)

/-- Whether a text is an address of IPv6: eight groups, or fewer around one gap of at least one
group. -/
def isIPv6 (cs : List Char) : Bool :=
  match Text.splitOnce [':', ':'] cs with
  | none => sideCount? true cs == some 8
  | some (before, after) =>
    match sideCount? false before, sideCount? true after with
    | some m, some n => m + n ≤ 7
    | _, _ => false

example : isIPv6 "2001:db8::ff00:42:8329".toList = true := by decide
example : isIPv6 "::ffff:192.0.2.1".toList = true := by decide
example : isIPv6 "1:2:3:4:5:6:7".toList = false := by decide
example : isIPv6 "1.2.3.4".toList = false := by decide

/-! ## Hosts and ports -/

/-- The host of an address, and what stands for the port after it. -/
def Address.split (cs : List Char) : Except AddressFault (List Char × Option (List Char)) :=
  match cs with
  | '[' :: rest =>
    match Text.splitOnce [']'] rest with
    | none => .error .openBracket
    | some (name, after) =>
      if !isIPv6 name then .error .badLiteral
      else match after with
        | [] => .ok (name, none)
        | ':' :: port => .ok (name, some port)
        | _ => .error (.afterBracket (.ofList after))
  | _ =>
    match Text.splitOnce [':'] cs with
    | some (name, port) => .ok (name, some port)
    | none => .ok (cs, none)

/-- The address of a host: its name, and after a colon a port. -/
def Address.ofHost (cs : List Char) : Except AddressFault Address := do
  let (name, port) ← Address.split cs
  if name.isEmpty then .error .emptyHost
  else match port with
    | none => .ok (.host (.ofList name) none)
    | some port =>
      match Text.unsigned? 65536 port with
      | some (n + 1) => .ok (.host (.ofList name) (some (n + 1)))
      | _ => .error (.badPort (.ofList port))

/-- Whether an address is that of a socket. -/
def isSocket (cs : List Char) : Bool := ".sock".toList.isSuffixOf cs

example : Address.ofHost "[::1]:27017".toList = .ok (.host "::1" (some 27017)) := rfl
example : Address.ofHost "a:0".toList = .error (.badPort "0") := rfl

end DocSchema.Server
