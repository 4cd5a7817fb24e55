import DiagCheck.Yaml.Node
import DiagCheck.Yaml.Plain

/-!
# The value that a YAML text describes

Scalars are keys and values, sequences are lists and mappings are maps. Of two equal keys the
first one gives the place and the last one the value. Of several faults the one that is nested
least deeply counts, and among those the first one.
-/

namespace DiagCheck.Yaml

open Config (Scalar Value)

namespace Node

def toKey : Node → Except Fault Scalar
  | .text ps => .ok (.text ps)
  | .plain t => if t = ['='] then .ok (.text t.points) else Plain.denote t
  | _ => .error .malformed

mutual

def toValue : Node → Except Fault Value
  | .text ps => .ok (.scalar (.text ps))
  | .plain t => (Plain.denote t).map .scalar
  | .sequence ns => (toValues ns).map .list
  | .mapping es => (putAll [] es).map .map

def toValues : List Node → Except Fault (List Value)
  | [] => .ok []
  | n :: ns => do
    let v ← toValue n
    return v :: (← toValues ns)

/-- Puts the entries of a mapping behind those that have been read. -/
def putAll (done : List (Scalar × Value)) :
    List (Node × Node) → Except Fault (List (Scalar × Value))
  | [] => .ok done
  | (k, v) :: es => do
    let k ← toKey k
    let v ← toValue v
    putAll (Value.put k v done) es

end

def faultOf : Except Fault α → List Fault
  | .ok _ => []
  | .error f => [f]

/-- What is listed by depth, one list behind the other. -/
def beside : List (List α) → List (List α) → List (List α)
  | [], ms => ms
  | ls, [] => ls
  | l :: ls, m :: ms => (l ++ m) :: beside ls ms

mutual

/-- The faults of a node by depth. What a collection holds is one deeper than the collection. -/
def faults : Node → List (List Fault)
  | .text _ => []
  | .plain t => [faultOf (Plain.denote t)]
  | .sequence ns => [] :: itemFaults ns
  | .mapping es => [] :: entryFaults es

def itemFaults : List Node → List (List Fault)
  | [] => []
  | n :: ns => beside (faults n) (itemFaults ns)

def entryFaults : List (Node × Node) → List (List Fault)
  | [] => []
  | (k, v) :: es => beside (beside [faultOf (toKey k)] (faults v)) (entryFaults es)

end

def firstFault? (n : Node) : Option Fault := n.faults.flatten.head?

end Node

def valueOf (i : Input) : Except Fault Value := do
  let n ← Node.ofInput i
  match n.firstFault? with
  | some f => .error f
  | none => n.toValue

end DiagCheck.Yaml
