import Provisioner.Json.Decode

/-! Peer topologies: a list of peersets, each with its position and its number of peers. A
topology has a short text (its counts in brackets), a JSON form, and a descriptor that lists
the address of every peer, peersets apart by `;` and peers of one peerset apart by `,`. -/

namespace Provisioner

structure Peerset where
  index : Nat
  peers : Nat
  deriving DecidableEq, Repr

structure Topology where
  peersets : List Peerset
  deriving DecidableEq, Repr

namespace Topology

def numbered (start : Nat) : List Nat → List Peerset
  | [] => []
  | c :: cs => ⟨start, c⟩ :: numbered (start + 1) cs

def ofCounts (counts : List Nat) : Topology := ⟨numbered 0 counts⟩

def counts (t : Topology) : List Nat := t.peersets.map (·.peers)

def wordLimit : Nat := Nat.pow 2 32 - 1

def addOverflow : String := "attempt to add with overflow"

def addWord (total count : Nat) : Except String Nat :=
  if total + count ≤ wordLimit then .ok (total + count) else .error addOverflow

/-- The number of all peers: the counts added to a running total from the first on, as 32-bit
words, so the first partial sum past `wordLimit` panics. -/
def totalPeers (t : Topology) : Except String Nat := t.counts.foldlM addWord 0

def serviceName (peerset peer : Nat) : String :=
  "peer" ++ toString peer ++ "-peerset" ++ toString peerset ++ "-service"

def addresses (port : Nat) (p : Peerset) : List String :=
  (List.range p.peers).map fun peer => serviceName p.index peer ++ ":" ++ toString port

/-- Every peer address: peersets apart by `;`, peers apart by `,`. -/
def descriptor (t : Topology) (port : Nat) : String :=
  ";".intercalate (t.peersets.map fun p => ",".intercalate (addresses port p))

def text (t : Topology) : String := "[" ++ ",".intercalate (t.counts.map toString) ++ "]"

def toJson (t : Topology) : Json :=
  .obj [("peersets", .arr (t.peersets.map fun p =>
    .obj [("index", Json.ofNat p.index), ("peers", Json.ofNat p.peers)]))]

def shape : Json.Shape :=
  .record "PeerTopology" [("peersets", .list (.record "Peerset" [
    ("index", .word (Nat.pow 2 64 - 1) "usize", none),
    ("peers", .word wordLimit "u32", none)]), none)]

def ofShaped (j : Json) : Topology :=
  ⟨((j.get? "peersets").map itemsOf).getD [] |>.map fun p =>
    ⟨natOf (p.get? "index"), natOf (p.get? "peers")⟩⟩
where
  natOf : Option Json → Nat
    | some (.num (.nat n)) => n.toNat
    | _ => 0
  itemsOf : Json → List Json
    | .arr xs => xs
    | _ => []

def read (bytes : ByteArray) : Except Json.ReadError Topology :=
  (Json.decodeBytes shape bytes).map ofShaped

end Topology

end Provisioner
