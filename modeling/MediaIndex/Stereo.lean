import MediaIndex.Modes

/-!
# Stereoscopic layouts — how two views share a frame

A stereoscopy tag is kept as the report wrote it; the layout it names is looked up when it is asked
for. Tags are the long descriptions of a container and the short codes of file names.
-/

set_option autoImplicit false

namespace MediaIndex

/-- How the two views of a stereoscopic film are put into one frame. An `h` in front says that each
view has half the resolution; the last letter of the first eight says which eye comes first. The
others are anaglyphs, by their pair of colours and their method. -/
inductive StereoLayout where
  | sbsl | hsbsl | sbsr | hsbsr | oul | houl | our | hour
  | arcg | arch | arcc | arcd | agmg | agmh | agmc | agmd | aybg | aybh | aybc | aybd
  deriving Repr, DecidableEq

namespace StereoLayout

def name : StereoLayout → String
  | .sbsl => "sbsl"
  | .hsbsl => "hsbsl"
  | .sbsr => "sbsr"
  | .hsbsr => "hsbsr"
  | .oul => "oul"
  | .houl => "houl"
  | .our => "our"
  | .hour => "hour"
  | .arcg => "arcg"
  | .arch => "arch"
  | .arcc => "arcc"
  | .arcd => "arcd"
  | .agmg => "agmg"
  | .agmh => "agmh"
  | .agmc => "agmc"
  | .agmd => "agmd"
  | .aybg => "aybg"
  | .aybh => "aybh"
  | .aybc => "aybc"
  | .aybd => "aybd"

/-- Whether the views are told apart by colour. -/
def isAnaglyph : StereoLayout → Bool
  | .sbsl | .hsbsl | .sbsr | .hsbsr | .oul | .houl | .our | .hour => false
  | _ => true

/-- The tags of the layouts, in lower case. -/
def tags : List (String × StereoLayout) :=
  [("sbs", .sbsl), ("sbsl", .sbsl), ("sbslf", .sbsl), ("side by side (left eye first)", .sbsl),
   ("hsbs", .hsbsl), ("hsbsl", .hsbsl), ("half side by side (left eye first)", .hsbsl),
   ("sbsr", .sbsr), ("sbsrf", .sbsr), ("side by side (right eye first)", .sbsr),
   ("hsbsr", .hsbsr), ("half side by side (right eye first)", .hsbsr),
   ("ou", .oul), ("oul", .oul), ("oulf", .oul), ("tb", .oul),
   ("top-bottom (left eye first)", .oul),
   ("hou", .houl), ("houl", .houl), ("htb", .houl), ("half top-bottom (left eye first)", .houl),
   ("our", .our), ("ourf", .our), ("top-bottom (right eye first)", .our),
   ("hour", .hour), ("half top-bottom (right eye first)", .hour),
   ("arcg", .arcg), ("anaglyph (cyan/red)", .arcg), ("arch", .arch), ("arcc", .arcc),
   ("arcd", .arcd), ("agmg", .agmg), ("anaglyph (green/magenta)", .agmg), ("agmh", .agmh),
   ("agmc", .agmc), ("agmd", .agmd), ("aybg", .aybg), ("aybh", .aybh), ("aybc", .aybc),
   ("aybd", .aybd)]

/-- The layout a tag names. -/
def ofTag? (tag : String) : Option StereoLayout :=
  (tags.find? fun entry => entry.1 == modeWord tag).map (·.2)

end StereoLayout

end MediaIndex
