import OutlineChart.Http.Host
import OutlineChart.Http.Message
import OutlineChart.Text.Hexadecimal

/-! # Locations

Where a request is sent on to: an absolute address, in ASCII, in which everything else is written
as escaped bytes.
-/

namespace OutlineChart

namespace Http

namespace Location

/-- What has a meaning in an address; a percent sign begins an escape. -/
def marks : List Char := "-._~:/%#?=@[]!$&'()*+,;".toList

/-- What is written as itself: ASCII letters and digits, and the marks. -/
def isPlain (c : Char) : Bool := c.isAlphanum || marks.contains c

def escapeByte (b : UInt8) : List Char :=
  ['%', Hexadecimal.capital (b.toNat / 16), Hexadecimal.capital (b.toNat % 16)]

def escape (c : Char) : List Char :=
  if isPlain c then [c] else (Utf8.encodeChar c).flatMap escapeByte

def encode (cs : List Char) : List Char := cs.flatMap escape

/-- The host that a request tells, if it is one; or else the server's own name. -/
def host (r : Request) : String :=
  ((r.headers.value? "host").filter fun host => Host.isValid host.toList).getD r.server

/-- The same place under another path.  A query without anything in it is left out. -/
def ofPath (r : Request) (path : String) : String :=
  let query := if r.query = "?" then "" else r.query
  String.ofList (encode ("http://" ++ host r ++ path ++ query).toList)

end Location

end Http

end OutlineChart
