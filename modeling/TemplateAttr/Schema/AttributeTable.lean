/-!
# Schema/AttributeTable — which attributes HTML defines on which tags

A line of the table is `attribute|tags`; the tags are separated by commas, and no tag at all means
every tag.  The lines are those of the HTML standard, with the obsolete presentational attributes
that browsers still reflect.
-/

namespace TemplateAttr

namespace Html

/-- **The attributes that are always set as attributes**, whatever the element; sorted by code
point. -/
def globalAttributes : List String := [
  "accesskey", "class", "contenteditable", "contextmenu", "dir", "draggable", "dropzone",
  "hidden", "id", "itemprop", "lang", "role", "slot", "spellcheck", "style", "tabindex", "title"]

/-- **The lines of the table.** -/
def attributeLines : List String := [
  "accesskey|",
  "autocapitalize|",
  "autofocus|",
  "class|",
  "contenteditable|",
  "dir|",
  "draggable|",
  "enterkeyhint|",
  "hidden|",
  "id|",
  "inert|",
  "inputmode|",
  "is|",
  "itemid|",
  "itemprop|",
  "itemref|",
  "itemscope|",
  "itemtype|",
  "lang|",
  "nonce|",
  "popover|",
  "slot|",
  "spellcheck|",
  "style|",
  "tabindex|",
  "title|",
  "translate|",
  "abbr|th",
  "accept|form,input",
  "accept-charset|form",
  "action|form",
  "align|applet,caption,col,colgroup,div,embed,h1,h2,h3,h4,h5,h6,hr,iframe,img,input,legend,object,p,table,tbody,td,tfoot,th,thead,tr",
  "alink|body",
  "allow|iframe",
  "allowfullscreen|iframe",
  "alt|applet,area,img,input",
  "archive|applet,object",
  "as|link",
  "async|script",
  "autocomplete|form,input,select,textarea",
  "autoplay|audio,video",
  "axis|td,th",
  "background|body",
  "bgcolor|body,table,td,th,tr",
  "blocking|link,script,style",
  "border|img,object,table",
  "cellpadding|table",
  "cellspacing|table",
  "char|col,colgroup,tbody,td,tfoot,th,thead,tr",
  "charoff|col,colgroup,tbody,td,tfoot,th,thead,tr",
  "charset|a,link,meta,script",
  "checked|input",
  "cite|blockquote,del,ins,q",
  "classid|object",
  "clear|br",
  "code|applet",
  "codebase|applet,object",
  "codetype|object",
  "color|basefont,font,hr,link",
  "cols|frameset,textarea",
  "colspan|td,th",
  "compact|dir,dl,menu,ol,ul",
  "content|meta",
  "controls|audio,video",
  "coords|a,area",
  "crossorigin|audio,img,link,script,video",
  "data|object",
  "datetime|del,ins,time",
  "declare|object",
  "decoding|img",
  "default|track",
  "defer|script",
  "dirname|input,textarea",
  "disabled|button,fieldset,input,link,optgroup,option,select,textarea",
  "disablepictureinpicture|video",
  "disableremoteplayback|audio,video",
  "download|a,area",
  "enctype|form",
  "face|basefont,font",
  "fetchpriority|img,link,script",
  "for|label,output",
  "form|button,fieldset,input,label,object,output,select,textarea",
  "formaction|button,input",
  "formenctype|button,input",
  "formmethod|button,input",
  "formnovalidate|button,input",
  "formtarget|button,input",
  "frame|table",
  "frameborder|frame,iframe",
  "headers|td,th",
  "height|applet,canvas,embed,iframe,img,input,object,source,td,th,video",
  "high|meter",
  "href|a,area,base,link",
  "hreflang|a,link",
  "hspace|applet,img,object",
  "http-equiv|meta",
  "imagesizes|link",
  "imagesrcset|link",
  "integrity|link,script",
  "ismap|img",
  "kind|track",
  "label|optgroup,option,track",
  "language|script",
  "link|body",
  "list|input",
  "loading|iframe,img",
  "longdesc|frame,iframe,img",
  "loop|audio,video",
  "low|meter",
  "marginheight|body,frame,iframe",
  "marginwidth|body,frame,iframe",
  "max|input,meter,progress",
  "maxlength|input,textarea",
  "media|link,meta,source,style",
  "method|form",
  "min|input,meter",
  "minlength|input,textarea",
  "multiple|input,select",
  "muted|audio,video",
  "name|a,applet,button,embed,fieldset,form,frame,iframe,img,input,map,meta,object,output,param,select,slot,textarea",
  "nohref|area",
  "nomodule|script",
  "noresize|frame",
  "noshade|hr",
  "novalidate|form",
  "nowrap|td,th",
  "object|applet",
  "open|details,dialog",
  "optimum|meter",
  "pattern|input",
  "ping|a,area",
  "placeholder|input,textarea",
  "playsinline|video",
  "popovertarget|button,input",
  "popovertargetaction|button,input",
  "poster|video",
  "preload|audio,video",
  "profile|head",
  "readonly|input,textarea",
  "referrerpolicy|a,area,iframe,img,link,script",
  "rel|a,area,form,link",
  "required|input,select,textarea",
  "rev|a,link",
  "reversed|ol",
  "rows|frameset,textarea",
  "rowspan|td,th",
  "rules|table",
  "sandbox|iframe",
  "scheme|meta",
  "scope|th",
  "scrolling|frame,iframe",
  "selected|option",
  "shape|a,area",
  "size|font,hr,input,select",
  "sizes|img,link,source",
  "span|col,colgroup",
  "src|audio,embed,frame,iframe,img,input,script,source,track,video",
  "srcdoc|iframe",
  "srclang|track",
  "srcset|img,source",
  "standby|object",
  "start|ol",
  "step|input",
  "summary|table",
  "target|a,area,base,form,link",
  "text|body",
  "type|a,button,embed,input,li,link,object,ol,script,source,style,ul",
  "usemap|img,input,object",
  "valign|col,colgroup,tbody,td,tfoot,th,thead,tr",
  "value|button,data,input,li,meter,option,output,param,progress,select",
  "valuetype|param",
  "version|html",
  "vlink|body",
  "vspace|applet,img,object",
  "width|applet,canvas,col,colgroup,embed,hr,iframe,img,input,object,pre,source,table,td,th,video",
  "wrap|textarea"]

end Html

end TemplateAttr
