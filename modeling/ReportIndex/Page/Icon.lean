import ReportIndex.Markup.Basic

/-!
Contract: the small drawings of the page's chrome.

Owns:
- the element that draws a path in the current colour;
- the paths of sun and moon.

Does not own: where an icon stands.
-/

namespace ReportIndex.Page

open Markup

/-- The path of the sun, shown while the page is light. -/
def sunPath : String :=
  "M120,40V16a8,8,0,0,1,16,0V40a8,8,0,0,1-16,0Zm72,88a64,64,0,1,1-64-64"
    ++ "A64.07,64.07,0,0,1,192,128Zm-16,0a48,48,0,1,0-48,48A48.05,48.05,0,0,0,176,128Z"
    ++ "M58.34,69.66A8,8,0,0,0,69.66,58.34l-16-16A8,8,0,0,0,42.34,53.66Zm0,116.68-16,16"
    ++ "a8,8,0,0,0,11.32,11.32l16-16a8,8,0,0,0-11.32-11.32ZM192,72a8,8,0,0,0,5.66-2.34"
    ++ "l16-16a8,8,0,0,0-11.32-11.32l-16,16A8,8,0,0,0,192,72Zm5.66,114.34"
    ++ "a8,8,0,0,0-11.32,11.32l16,16a8,8,0,0,0,11.32-11.32ZM48,128a8,8,0,0,0-8-8H16"
    ++ "a8,8,0,0,0,0,16H40A8,8,0,0,0,48,128Zm80,80a8,8,0,0,0-8,8v24a8,8,0,0,0,16,0V216"
    ++ "A8,8,0,0,0,128,208Zm112-88H216a8,8,0,0,0,0,16h24a8,8,0,0,0,0-16Z"

/-- The path of the moon, shown while the page is dark. -/
def moonPath : String :=
  "M233.54,142.23"
    ++ "a8,8,0,0,0-8-2,88.08,88.08,0,0,1-109.8-109.8,8,8,0,0,0-10-10,104.84,104.84,0,0,0-52.91,37"
    ++ "A104,104,0,0,0,136,224"
    ++ "a103.09,103.09,0,0,0,62.52-20.88,104.84,104.84,0,0,0,37-52.91"
    ++ "A8,8,0,0,0,233.54,142.23ZM188.9,190.34A88,88,0,0,1,65.66,67.11"
    ++ "a89,89,0,0,1,31.4-26A106,106,0,0,0,96,56,104.11,104.11,0,0,0,200,160"
    ++ "a106,106,0,0,0,14.92-1.06A89,89,0,0,1,188.9,190.34Z"

/-- The width and height of an icon unless another is asked for. -/
def defaultIconSize : String := "18"

/-- A drawing of a path. It is decoration, so it is hidden from readers of the
page's text. -/
def icon (path size classes : String) : Node :=
  .element "svg"
    [ ⟨"xmlns", "http://www.w3.org/2000/svg"⟩,
      ⟨"width", size⟩,
      ⟨"height", size⟩,
      ⟨"fill", "currentColor"⟩,
      ⟨"viewBox", "0 0 256 256"⟩,
      ⟨"aria-hidden", "true"⟩ ]
    (some classes)
    [.element "path" [⟨"d", path⟩] none []]

end ReportIndex.Page
