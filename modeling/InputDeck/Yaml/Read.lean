import InputDeck.Yaml.Assembly

/-!
The value of a text.  Texts are read one after another: the version that one of them names holds
until another does, what one of them leaves unfinished is finished with the next, and names that
it gives before it breaks off are known there.
-/

namespace InputDeck

namespace Yaml

namespace Assembly

def read (assembly : Assembly) (text : Text) : Except Error Graph × Assembly :=
  match Scan.start assembly.version text with
  | .error error => (.error error, assembly)
  | .ok scan =>
      let fuel := 16 * (text.length + assembly.nodes.size) + 64
      let start : Reader := { scan, nodes := assembly.nodes, anchors := assembly.anchors }
      match Reading.document fuel start with
      | .error error reader =>
          (.error error, { assembly with
            version := reader.scan.version,
            nodes := reader.readNodes,
            anchors := reader.anchors })
      | .ok none reader =>
          (.ok { root := .scalar .null, store := #[] },
            { assembly with version := reader.scan.version })
      | .ok (some root) reader =>
          let assembly := { assembly with version := reader.scan.version, anchors := [] }
          match Assembling.document fuel root (assembly.withNodes reader.nodes) with
          | .ok graph assembly => (.ok graph, assembly)
          | .error error assembly => (.error error, assembly)

end Assembly

end Yaml

end InputDeck
