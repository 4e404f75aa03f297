import DesignCode.Layer.Basic

/-!
# Documents

A `Document` is the answer to a request for a design: either the whole design, or some of its nodes
by their ids.  `Document.root?` is the tree that code is generated from.
-/

namespace DesignCode

open Json

/-- A design, whole or in part. -/
structure Document where
  /-- Requested nodes by their ids; a node that was not found has no tree. -/
  nodes : Option (OrderedMap (Option (Tree Layer))) := none
  document : Option (Tree Layer) := none

namespace Document

/-- An entry of the requested nodes. -/
def entryRecord : Record (Option (Tree Layer)) where
  title := "struct NodeEntry"
  blank := none
  fields := [.defaulted "document" Layer.treeCodec.option id fun v _ => v]

def record : Record Document where
  title := "struct DocumentResponse"
  blank := {}
  fields :=
    [.optional "nodes" entryRecord.codec.map Document.nodes fun v d => { d with nodes := v },
     .optional "document" Layer.treeCodec Document.document fun v d => { d with document := v }]

def codec : Codec Document := record.codec

/-- Reads a document of any depth. -/
def parse (s : String) : Except Fault Document := codec.parseDeep s

def ofTree (t : Tree Layer) : Document := { document := some t }

/-- The tree to generate code from: that of the first requested node if nodes were requested, else
the whole design. -/
def root? (d : Document) : Option (Tree Layer) :=
  match d.nodes with
  | some nodes => nodes.values.head?.join
  | none => d.document

/-- How messages speak of a text that is no document. -/
def faultMessage (fault : Fault) : String := "Malformed document JSON: " ++ fault.message

end Document

end DesignCode
