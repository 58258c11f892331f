/-!
# Schema/Property — attributes whose property has another name

The property of an attribute is as a rule its name in camel case.  The tables hold the others.
-/

namespace TemplateAttr

namespace Html

/-- The attributes whose property has a name of its own. -/
def irregularProperties : List (String × String) := [
  ("class", "className"), ("for", "htmlFor"), ("char", "ch"), ("charoff", "chOff")]

/-- The attributes written as one word whose property is written as several. -/
def compoundProperties : List (String × String) := [
  ("accesskey", "accessKey"), ("alink", "aLink"), ("allowfullscreen", "allowFullscreen"),
  ("bgcolor", "bgColor"), ("cellpadding", "cellPadding"), ("cellspacing", "cellSpacing"),
  ("codebase", "codeBase"), ("codetype", "codeType"), ("colspan", "colSpan"),
  ("contenteditable", "contentEditable"), ("crossorigin", "crossOrigin"),
  ("datetime", "dateTime"), ("dirname", "dirName"),
  ("disablepictureinpicture", "disablePictureInPicture"),
  ("disableremoteplayback", "disableRemotePlayback"), ("enterkeyhint", "enterKeyHint"),
  ("fetchpriority", "fetchPriority"), ("formaction", "formAction"),
  ("formenctype", "formEnctype"), ("formmethod", "formMethod"),
  ("formnovalidate", "formNoValidate"), ("formtarget", "formTarget"),
  ("frameborder", "frameBorder"), ("imagesizes", "imageSizes"), ("imagesrcset", "imageSrcset"),
  ("inputmode", "inputMode"), ("ismap", "isMap"), ("longdesc", "longDesc"),
  ("marginheight", "marginHeight"), ("marginwidth", "marginWidth"), ("maxlength", "maxLength"),
  ("minlength", "minLength"), ("nohref", "noHref"), ("nomodule", "noModule"),
  ("noresize", "noResize"), ("noshade", "noShade"), ("novalidate", "noValidate"),
  ("nowrap", "noWrap"), ("playsinline", "playsInline"), ("readonly", "readOnly"),
  ("referrerpolicy", "referrerPolicy"), ("rowspan", "rowSpan"), ("tabindex", "tabIndex"),
  ("usemap", "useMap"), ("valign", "vAlign"), ("valuetype", "valueType"), ("vlink", "vLink")]

/-- **The properties that are not the attribute's name in camel case.** -/
def properties : List (String × String) := irregularProperties ++ compoundProperties

end Html

end TemplateAttr
