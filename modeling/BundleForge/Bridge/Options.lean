import BundleForge.Entries
import BundleForge.Json.Basic

/-!
What the bundler is asked to do for one target.
-/

namespace BundleForge.Bridge

structure Options where
  entryPoints : List String
  platform : String
  format : String
  target : List String
  outDir : String
  minify : Bool
  sourcemap : Bool
  treeShaking : Option Bool := none
  bundle : Bool := true
  metafile : Bool := true
  assetNames : String := "[name].[ext]"
  define : List (String × String) := []
  watch : Bool := false
deriving DecidableEq, Repr

def texts (items : List String) : Json := .arr (items.map .str)

/-- The options in the bundler's own words. What is left to the bundler is left out, and of several
definitions of a name the last one counts. -/
def Options.toBundler (o : Options) : Json :=
  let treeShaking := (o.treeShaking.map fun b => [("treeShaking", Json.bool b)]).getD []
  let define :=
    if o.define.isEmpty then []
    else [("define", Json.obj ((Entries.collect o.define).map fun d => (d.1, .str d.2)))]
  .obj ([
    ("entryPoints", texts o.entryPoints),
    ("platform", .str o.platform),
    ("format", .str o.format),
    ("target", texts o.target),
    ("outdir", .str o.outDir),
    ("bundle", .bool o.bundle),
    ("minify", .bool o.minify),
    ("sourcemap", .bool o.sourcemap),
    ("metafile", .bool o.metafile),
    ("assetNames", .str o.assetNames)] ++ treeShaking ++ define)

end BundleForge.Bridge
