import CloudAccessors.Config

/-!
# The preamble of the generated file

The marker of a generated file and the package clause. The marker comes first, so that Go tools
recognize the file.
-/

namespace CloudAccessors.Source

def preambleText (c : Config) : String :=
  "// Code generated by " ++ c.generator ++ "; DO NOT EDIT.\n\npackage " ++ c.package ++ "\n"

def preamble (c : Config) : Except Failure String :=
  if Go.isIdentifier c.package then .ok (preambleText c)
  else .error (.render .preamble "" (.package c.package))

end CloudAccessors.Source
