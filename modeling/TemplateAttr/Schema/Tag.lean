/-!
# Schema/Tag — built-in tags that are no HTML tags

Both tables are sorted by code point.
-/

namespace TemplateAttr

namespace Html

/-- **The tags of SVG elements.**  Those that SVG shares with HTML (`a`, `audio`, `canvas`,
`iframe`, `script`, `style`, `title`, `video`) are left out: such a tag counts as SVG through the
namespace of its element only. -/
def svgTags : List String := [
  "altGlyph", "altGlyphDef", "altGlyphItem", "animate", "animateColor", "animateMotion",
  "animateTransform", "animation", "circle", "clipPath", "color-profile", "cursor", "defs",
  "desc", "discard", "ellipse", "feBlend", "feColorMatrix", "feComponentTransfer", "feComposite",
  "feConvolveMatrix", "feDiffuseLighting", "feDisplacementMap", "feDistantLight", "feDropShadow",
  "feFlood", "feFuncA", "feFuncB", "feFuncG", "feFuncR", "feGaussianBlur", "feImage", "feMerge",
  "feMergeNode", "feMorphology", "feOffset", "fePointLight", "feSpecularLighting", "feSpotLight",
  "feTile", "feTurbulence", "filter", "font-face", "font-face-format", "font-face-name",
  "font-face-src", "font-face-uri", "foreignObject", "g", "glyph", "glyphRef", "handler", "hatch",
  "hatchpath", "hkern", "image", "line", "linearGradient", "listener", "marker", "mask", "mesh",
  "meshgradient", "meshpatch", "meshrow", "metadata", "missing-glyph", "mpath", "path", "pattern",
  "polygon", "polyline", "prefetch", "radialGradient", "rect", "set", "solidColor", "solidcolor",
  "stop", "svg", "switch", "symbol", "tbreak", "text", "textArea", "textPath", "tref", "tspan",
  "use", "view", "vkern"]

/-- **The built-in tags with a dash**, which are no custom elements. -/
def dashedTags : List String := [
  "annotation-xml", "color-profile", "font-face", "font-face-format", "font-face-name",
  "font-face-src", "font-face-uri", "missing-glyph"]

end Html

end TemplateAttr
