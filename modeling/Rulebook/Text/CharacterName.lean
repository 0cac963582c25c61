import Rulebook.Text.Case

/-!
# Names of characters

The standard names of the characters of the common scripts and symbol blocks, with the usual short names of
control characters. Names are compared without regard to case.
-/

namespace Rulebook.Text

/-- Names, part 1: a number in hexadecimal and a name on each line. -/
def characterNames1 : String :=
  "20 SPACE
21 EXCLAMATION MARK
22 QUOTATION MARK
23 NUMBER SIGN
24 DOLLAR SIGN
25 PERCENT SIGN
26 AMPERSAND
27 APOSTROPHE
28 LEFT PARENTHESIS
29 RIGHT PARENTHESIS
2a ASTERISK
2b PLUS SIGN
2c COMMA
2d HYPHEN-MINUS
2e FULL STOP
2f SOLIDUS
30 DIGIT ZERO
31 DIGIT ONE
32 DIGIT TWO
33 DIGIT THREE
34 DIGIT FOUR
35 DIGIT FIVE
36 DIGIT SIX
37 DIGIT SEVEN
38 DIGIT EIGHT
39 DIGIT NINE
3a COLON
3b SEMICOLON
3c LESS-THAN SIGN
3d EQUALS SIGN
3e GREATER-THAN SIGN
3f QUESTION MARK
40 COMMERCIAL AT
41 LATIN CAPITAL LETTER A
42 LATIN CAPITAL LETTER B
43 LATIN CAPITAL LETTER C
44 LATIN CAPITAL LETTER D
45 LATIN CAPITAL LETTER E
46 LATIN CAPITAL LETTER F
47 LATIN CAPITAL LETTER G
48 LATIN CAPITAL LETTER H
49 LATIN CAPITAL LETTER I
4a LATIN CAPITAL LETTER J
4b LATIN CAPITAL LETTER K
4c LATIN CAPITAL LETTER L
4d LATIN CAPITAL LETTER M
4e LATIN CAPITAL LETTER N
4f LATIN CAPITAL LETTER O
50 LATIN CAPITAL LETTER P
51 LATIN CAPITAL LETTER Q
52 LATIN CAPITAL LETTER R
53 LATIN CAPITAL LETTER S
54 LATIN CAPITAL LETTER T
55 LATIN CAPITAL LETTER U
56 LATIN CAPITAL LETTER V
57 LATIN CAPITAL LETTER W
58 LATIN CAPITAL LETTER X
59 LATIN CAPITAL LETTER Y
5a LATIN CAPITAL LETTER Z
5b LEFT SQUARE BRACKET
5c REVERSE SOLIDUS
5d RIGHT SQUARE BRACKET
5e CIRCUMFLEX ACCENT
5f LOW LINE
60 GRAVE ACCENT
61 LATIN SMALL LETTER A
62 LATIN SMALL LETTER B
63 LATIN SMALL LETTER C
64 LATIN SMALL LETTER D
65 LATIN SMALL LETTER E
66 LATIN SMALL LETTER F
67 LATIN SMALL LETTER G
68 LATIN SMALL LETTER H
69 LATIN SMALL LETTER I
6a LATIN SMALL LETTER J
6b LATIN SMALL LETTER K
6c LATIN SMALL LETTER L
6d LATIN SMALL LETTER M
6e LATIN SMALL LETTER N
6f LATIN SMALL LETTER O
70 LATIN SMALL LETTER P
71 LATIN SMALL LETTER Q
72 LATIN SMALL LETTER R
73 LATIN SMALL LETTER S
74 LATIN SMALL LETTER T
75 LATIN SMALL LETTER U
76 LATIN SMALL LETTER V
77 LATIN SMALL LETTER W
78 LATIN SMALL LETTER X
79 LATIN SMALL LETTER Y
7a LATIN SMALL LETTER Z
7b LEFT CURLY BRACKET
7c VERTICAL LINE
7d RIGHT CURLY BRACKET
7e TILDE
a0 NO-BREAK SPACE
a1 INVERTED EXCLAMATION MARK
a2 CENT SIGN
a3 POUND SIGN
a4 CURRENCY SIGN
a5 YEN SIGN
a6 BROKEN BAR
a7 SECTION SIGN
a8 DIAERESIS
a9 COPYRIGHT SIGN
aa FEMININE ORDINAL INDICATOR
ab LEFT-POINTING DOUBLE ANGLE QUOTATION MARK
ac NOT SIGN
ad SOFT HYPHEN
ae REGISTERED SIGN
af MACRON
b0 DEGREE SIGN
b1 PLUS-MINUS SIGN
b2 SUPERSCRIPT TWO
b3 SUPERSCRIPT THREE
b4 ACUTE ACCENT
b5 MICRO SIGN
b6 PILCROW SIGN
b7 MIDDLE DOT
b8 CEDILLA
b9 SUPERSCRIPT ONE
ba MASCULINE ORDINAL INDICATOR
bb RIGHT-POINTING DOUBLE ANGLE QUOTATION MARK
bc VULGAR FRACTION ONE QUARTER
bd VULGAR FRACTION ONE HALF
be VULGAR FRACTION THREE QUARTERS
bf INVERTED QUESTION MARK
c0 LATIN CAPITAL LETTER A WITH GRAVE
c1 LATIN CAPITAL LETTER A WITH ACUTE
c2 LATIN CAPITAL LETTER A WITH CIRCUMFLEX
c3 LATIN CAPITAL LETTER A WITH TILDE
c4 LATIN CAPITAL LETTER A WITH DIAERESIS
c5 LATIN CAPITAL LETTER A WITH RING ABOVE
c6 LATIN CAPITAL LETTER AE
c7 LATIN CAPITAL LETTER C WITH CEDILLA
c8 LATIN CAPITAL LETTER E WITH GRAVE
c9 LATIN CAPITAL LETTER E WITH ACUTE
ca LATIN CAPITAL LETTER E WITH CIRCUMFLEX
cb LATIN CAPITAL LETTER E WITH DIAERESIS
cc LATIN CAPITAL LETTER I WITH GRAVE
cd LATIN CAPITAL LETTER I WITH ACUTE
ce LATIN CAPITAL LETTER I WITH CIRCUMFLEX
cf LATIN CAPITAL LETTER I WITH DIAERESIS
d0 LATIN CAPITAL LETTER ETH
d1 LATIN CAPITAL LETTER N WITH TILDE
d2 LATIN CAPITAL LETTER O WITH GRAVE
d3 LATIN CAPITAL LETTER O WITH ACUTE
d4 LATIN CAPITAL LETTER O WITH CIRCUMFLEX
d5 LATIN CAPITAL LETTER O WITH TILDE
d6 LATIN CAPITAL LETTER O WITH DIAERESIS
d7 MULTIPLICATION SIGN
d8 LATIN CAPITAL LETTER O WITH STROKE
d9 LATIN CAPITAL LETTER U WITH GRAVE
da LATIN CAPITAL LETTER U WITH ACUTE
db LATIN CAPITAL LETTER U WITH CIRCUMFLEX
dc LATIN CAPITAL LETTER U WITH DIAERESIS
dd LATIN CAPITAL LETTER Y WITH ACUTE
de LATIN CAPITAL LETTER THORN
df LATIN SMALL LETTER SHARP S
e0 LATIN SMALL LETTER A WITH GRAVE
e1 LATIN SMALL LETTER A WITH ACUTE
e2 LATIN SMALL LETTER A WITH CIRCUMFLEX
e3 LATIN SMALL LETTER A WITH TILDE
e4 LATIN SMALL LETTER A WITH DIAERESIS"

/-- Names, part 2: a number in hexadecimal and a name on each line. -/
def characterNames2 : String :=
  "e5 LATIN SMALL LETTER A WITH RING ABOVE
e6 LATIN SMALL LETTER AE
e7 LATIN SMALL LETTER C WITH CEDILLA
e8 LATIN SMALL LETTER E WITH GRAVE
e9 LATIN SMALL LETTER E WITH ACUTE
ea LATIN SMALL LETTER E WITH CIRCUMFLEX
eb LATIN SMALL LETTER E WITH DIAERESIS
ec LATIN SMALL LETTER I WITH GRAVE
ed LATIN SMALL LETTER I WITH ACUTE
ee LATIN SMALL LETTER I WITH CIRCUMFLEX
ef LATIN SMALL LETTER I WITH DIAERESIS
f0 LATIN SMALL LETTER ETH
f1 LATIN SMALL LETTER N WITH TILDE
f2 LATIN SMALL LETTER O WITH GRAVE
f3 LATIN SMALL LETTER O WITH ACUTE
f4 LATIN SMALL LETTER O WITH CIRCUMFLEX
f5 LATIN SMALL LETTER O WITH TILDE
f6 LATIN SMALL LETTER O WITH DIAERESIS
f7 DIVISION SIGN
f8 LATIN SMALL LETTER O WITH STROKE
f9 LATIN SMALL LETTER U WITH GRAVE
fa LATIN SMALL LETTER U WITH ACUTE
fb LATIN SMALL LETTER U WITH CIRCUMFLEX
fc LATIN SMALL LETTER U WITH DIAERESIS
fd LATIN SMALL LETTER Y WITH ACUTE
fe LATIN SMALL LETTER THORN
ff LATIN SMALL LETTER Y WITH DIAERESIS
100 LATIN CAPITAL LETTER A WITH MACRON
101 LATIN SMALL LETTER A WITH MACRON
102 LATIN CAPITAL LETTER A WITH BREVE
103 LATIN SMALL LETTER A WITH BREVE
104 LATIN CAPITAL LETTER A WITH OGONEK
105 LATIN SMALL LETTER A WITH OGONEK
106 LATIN CAPITAL LETTER C WITH ACUTE
107 LATIN SMALL LETTER C WITH ACUTE
108 LATIN CAPITAL LETTER C WITH CIRCUMFLEX
109 LATIN SMALL LETTER C WITH CIRCUMFLEX
10a LATIN CAPITAL LETTER C WITH DOT ABOVE
10b LATIN SMALL LETTER C WITH DOT ABOVE
10c LATIN CAPITAL LETTER C WITH CARON
10d LATIN SMALL LETTER C WITH CARON
10e LATIN CAPITAL LETTER D WITH CARON
10f LATIN SMALL LETTER D WITH CARON
110 LATIN CAPITAL LETTER D WITH STROKE
111 LATIN SMALL LETTER D WITH STROKE
112 LATIN CAPITAL LETTER E WITH MACRON
113 LATIN SMALL LETTER E WITH MACRON
114 LATIN CAPITAL LETTER E WITH BREVE
115 LATIN SMALL LETTER E WITH BREVE
116 LATIN CAPITAL LETTER E WITH DOT ABOVE
117 LATIN SMALL LETTER E WITH DOT ABOVE
118 LATIN CAPITAL LETTER E WITH OGONEK
119 LATIN SMALL LETTER E WITH OGONEK
11a LATIN CAPITAL LETTER E WITH CARON
11b LATIN SMALL LETTER E WITH CARON
11c LATIN CAPITAL LETTER G WITH CIRCUMFLEX
11d LATIN SMALL LETTER G WITH CIRCUMFLEX
11e LATIN CAPITAL LETTER G WITH BREVE
11f LATIN SMALL LETTER G WITH BREVE
120 LATIN CAPITAL LETTER G WITH DOT ABOVE
121 LATIN SMALL LETTER G WITH DOT ABOVE
122 LATIN CAPITAL LETTER G WITH CEDILLA
123 LATIN SMALL LETTER G WITH CEDILLA
124 LATIN CAPITAL LETTER H WITH CIRCUMFLEX
125 LATIN SMALL LETTER H WITH CIRCUMFLEX
126 LATIN CAPITAL LETTER H WITH STROKE
127 LATIN SMALL LETTER H WITH STROKE
128 LATIN CAPITAL LETTER I WITH TILDE
129 LATIN SMALL LETTER I WITH TILDE
12a LATIN CAPITAL LETTER I WITH MACRON
12b LATIN SMALL LETTER I WITH MACRON
12c LATIN CAPITAL LETTER I WITH BREVE
12d LATIN SMALL LETTER I WITH BREVE
12e LATIN CAPITAL LETTER I WITH OGONEK
12f LATIN SMALL LETTER I WITH OGONEK
130 LATIN CAPITAL LETTER I WITH DOT ABOVE
131 LATIN SMALL LETTER DOTLESS I
132 LATIN CAPITAL LIGATURE IJ
133 LATIN SMALL LIGATURE IJ
134 LATIN CAPITAL LETTER J WITH CIRCUMFLEX
135 LATIN SMALL LETTER J WITH CIRCUMFLEX
136 LATIN CAPITAL LETTER K WITH CEDILLA
137 LATIN SMALL LETTER K WITH CEDILLA
138 LATIN SMALL LETTER KRA
139 LATIN CAPITAL LETTER L WITH ACUTE
13a LATIN SMALL LETTER L WITH ACUTE
13b LATIN CAPITAL LETTER L WITH CEDILLA
13c LATIN SMALL LETTER L WITH CEDILLA
13d LATIN CAPITAL LETTER L WITH CARON
13e LATIN SMALL LETTER L WITH CARON
13f LATIN CAPITAL LETTER L WITH MIDDLE DOT
140 LATIN SMALL LETTER L WITH MIDDLE DOT
141 LATIN CAPITAL LETTER L WITH STROKE
142 LATIN SMALL LETTER L WITH STROKE
143 LATIN CAPITAL LETTER N WITH ACUTE
144 LATIN SMALL LETTER N WITH ACUTE
145 LATIN CAPITAL LETTER N WITH CEDILLA
146 LATIN SMALL LETTER N WITH CEDILLA
147 LATIN CAPITAL LETTER N WITH CARON
148 LATIN SMALL LETTER N WITH CARON
149 LATIN SMALL LETTER N PRECEDED BY APOSTROPHE
14a LATIN CAPITAL LETTER ENG
14b LATIN SMALL LETTER ENG
14c LATIN CAPITAL LETTER O WITH MACRON
14d LATIN SMALL LETTER O WITH MACRON
14e LATIN CAPITAL LETTER O WITH BREVE
14f LATIN SMALL LETTER O WITH BREVE"

/-- Names, part 3: a number in hexadecimal and a name on each line. -/
def characterNames3 : String :=
  "150 LATIN CAPITAL LETTER O WITH DOUBLE ACUTE
151 LATIN SMALL LETTER O WITH DOUBLE ACUTE
152 LATIN CAPITAL LIGATURE OE
153 LATIN SMALL LIGATURE OE
154 LATIN CAPITAL LETTER R WITH ACUTE
155 LATIN SMALL LETTER R WITH ACUTE
156 LATIN CAPITAL LETTER R WITH CEDILLA
157 LATIN SMALL LETTER R WITH CEDILLA
158 LATIN CAPITAL LETTER R WITH CARON
159 LATIN SMALL LETTER R WITH CARON
15a LATIN CAPITAL LETTER S WITH ACUTE
15b LATIN SMALL LETTER S WITH ACUTE
15c LATIN CAPITAL LETTER S WITH CIRCUMFLEX
15d LATIN SMALL LETTER S WITH CIRCUMFLEX
15e LATIN CAPITAL LETTER S WITH CEDILLA
15f LATIN SMALL LETTER S WITH CEDILLA
160 LATIN CAPITAL LETTER S WITH CARON
161 LATIN SMALL LETTER S WITH CARON
162 LATIN CAPITAL LETTER T WITH CEDILLA
163 LATIN SMALL LETTER T WITH CEDILLA
164 LATIN CAPITAL LETTER T WITH CARON
165 LATIN SMALL LETTER T WITH CARON
166 LATIN CAPITAL LETTER T WITH STROKE
167 LATIN SMALL LETTER T WITH STROKE
168 LATIN CAPITAL LETTER U WITH TILDE
169 LATIN SMALL LETTER U WITH TILDE
16a LATIN CAPITAL LETTER U WITH MACRON
16b LATIN SMALL LETTER U WITH MACRON
16c LATIN CAPITAL LETTER U WITH BREVE
16d LATIN SMALL LETTER U WITH BREVE
16e LATIN CAPITAL LETTER U WITH RING ABOVE
16f LATIN SMALL LETTER U WITH RING ABOVE
170 LATIN CAPITAL LETTER U WITH DOUBLE ACUTE
171 LATIN SMALL LETTER U WITH DOUBLE ACUTE
172 LATIN CAPITAL LETTER U WITH OGONEK
173 LATIN SMALL LETTER U WITH OGONEK
174 LATIN CAPITAL LETTER W WITH CIRCUMFLEX
175 LATIN SMALL LETTER W WITH CIRCUMFLEX
176 LATIN CAPITAL LETTER Y WITH CIRCUMFLEX
177 LATIN SMALL LETTER Y WITH CIRCUMFLEX
178 LATIN CAPITAL LETTER Y WITH DIAERESIS
179 LATIN CAPITAL LETTER Z WITH ACUTE
17a LATIN SMALL LETTER Z WITH ACUTE
17b LATIN CAPITAL LETTER Z WITH DOT ABOVE
17c LATIN SMALL LETTER Z WITH DOT ABOVE
17d LATIN CAPITAL LETTER Z WITH CARON
17e LATIN SMALL LETTER Z WITH CARON
17f LATIN SMALL LETTER LONG S
180 LATIN SMALL LETTER B WITH STROKE
181 LATIN CAPITAL LETTER B WITH HOOK
182 LATIN CAPITAL LETTER B WITH TOPBAR
183 LATIN SMALL LETTER B WITH TOPBAR
184 LATIN CAPITAL LETTER TONE SIX
185 LATIN SMALL LETTER TONE SIX
186 LATIN CAPITAL LETTER OPEN O
187 LATIN CAPITAL LETTER C WITH HOOK
188 LATIN SMALL LETTER C WITH HOOK
189 LATIN CAPITAL LETTER AFRICAN D
18a LATIN CAPITAL LETTER D WITH HOOK
18b LATIN CAPITAL LETTER D WITH TOPBAR
18c LATIN SMALL LETTER D WITH TOPBAR
18d LATIN SMALL LETTER TURNED DELTA
18e LATIN CAPITAL LETTER REVERSED E
18f LATIN CAPITAL LETTER SCHWA
190 LATIN CAPITAL LETTER OPEN E
191 LATIN CAPITAL LETTER F WITH HOOK
192 LATIN SMALL LETTER F WITH HOOK
193 LATIN CAPITAL LETTER G WITH HOOK
194 LATIN CAPITAL LETTER GAMMA
195 LATIN SMALL LETTER HV
196 LATIN CAPITAL LETTER IOTA
197 LATIN CAPITAL LETTER I WITH STROKE
198 LATIN CAPITAL LETTER K WITH HOOK
199 LATIN SMALL LETTER K WITH HOOK
19a LATIN SMALL LETTER L WITH BAR
19b LATIN SMALL LETTER LAMBDA WITH STROKE
19c LATIN CAPITAL LETTER TURNED M
19d LATIN CAPITAL LETTER N WITH LEFT HOOK
19e LATIN SMALL LETTER N WITH LONG RIGHT LEG
19f LATIN CAPITAL LETTER O WITH MIDDLE TILDE
1a0 LATIN CAPITAL LETTER O WITH HORN
1a1 LATIN SMALL LETTER O WITH HORN
1a2 LATIN CAPITAL LETTER OI
1a3 LATIN SMALL LETTER OI
1a4 LATIN CAPITAL LETTER P WITH HOOK
1a5 LATIN SMALL LETTER P WITH HOOK
1a6 LATIN LETTER YR
1a7 LATIN CAPITAL LETTER TONE TWO
1a8 LATIN SMALL LETTER TONE TWO
1a9 LATIN CAPITAL LETTER ESH
1aa LATIN LETTER REVERSED ESH LOOP
1ab LATIN SMALL LETTER T WITH PALATAL HOOK
1ac LATIN CAPITAL LETTER T WITH HOOK
1ad LATIN SMALL LETTER T WITH HOOK
1ae LATIN CAPITAL LETTER T WITH RETROFLEX HOOK
1af LATIN CAPITAL LETTER U WITH HORN
1b0 LATIN SMALL LETTER U WITH HORN
1b1 LATIN CAPITAL LETTER UPSILON
1b2 LATIN CAPITAL LETTER V WITH HOOK
1b3 LATIN CAPITAL LETTER Y WITH HOOK
1b4 LATIN SMALL LETTER Y WITH HOOK
1b5 LATIN CAPITAL LETTER Z WITH STROKE
1b6 LATIN SMALL LETTER Z WITH STROKE
1b7 LATIN CAPITAL LETTER EZH
1b8 LATIN CAPITAL LETTER EZH REVERSED
1b9 LATIN SMALL LETTER EZH REVERSED
1ba LATIN SMALL LETTER EZH WITH TAIL
1bb LATIN LETTER TWO WITH STROKE"

/-- Names, part 4: a number in hexadecimal and a name on each line. -/
def characterNames4 : String :=
  "1bc LATIN CAPITAL LETTER TONE FIVE
1bd LATIN SMALL LETTER TONE FIVE
1be LATIN LETTER INVERTED GLOTTAL STOP WITH STROKE
1bf LATIN LETTER WYNN
1c0 LATIN LETTER DENTAL CLICK
1c1 LATIN LETTER LATERAL CLICK
1c2 LATIN LETTER ALVEOLAR CLICK
1c3 LATIN LETTER RETROFLEX CLICK
1c4 LATIN CAPITAL LETTER DZ WITH CARON
1c5 LATIN CAPITAL LETTER D WITH SMALL LETTER Z WITH CARON
1c6 LATIN SMALL LETTER DZ WITH CARON
1c7 LATIN CAPITAL LETTER LJ
1c8 LATIN CAPITAL LETTER L WITH SMALL LETTER J
1c9 LATIN SMALL LETTER LJ
1ca LATIN CAPITAL LETTER NJ
1cb LATIN CAPITAL LETTER N WITH SMALL LETTER J
1cc LATIN SMALL LETTER NJ
1cd LATIN CAPITAL LETTER A WITH CARON
1ce LATIN SMALL LETTER A WITH CARON
1cf LATIN CAPITAL LETTER I WITH CARON
1d0 LATIN SMALL LETTER I WITH CARON
1d1 LATIN CAPITAL LETTER O WITH CARON
1d2 LATIN SMALL LETTER O WITH CARON
1d3 LATIN CAPITAL LETTER U WITH CARON
1d4 LATIN SMALL LETTER U WITH CARON
1d5 LATIN CAPITAL LETTER U WITH DIAERESIS AND MACRON
1d6 LATIN SMALL LETTER U WITH DIAERESIS AND MACRON
1d7 LATIN CAPITAL LETTER U WITH DIAERESIS AND ACUTE
1d8 LATIN SMALL LETTER U WITH DIAERESIS AND ACUTE
1d9 LATIN CAPITAL LETTER U WITH DIAERESIS AND CARON
1da LATIN SMALL LETTER U WITH DIAERESIS AND CARON
1db LATIN CAPITAL LETTER U WITH DIAERESIS AND GRAVE
1dc LATIN SMALL LETTER U WITH DIAERESIS AND GRAVE
1dd LATIN SMALL LETTER TURNED E
1de LATIN CAPITAL LETTER A WITH DIAERESIS AND MACRON
1df LATIN SMALL LETTER A WITH DIAERESIS AND MACRON
1e0 LATIN CAPITAL LETTER A WITH DOT ABOVE AND MACRON
1e1 LATIN SMALL LETTER A WITH DOT ABOVE AND MACRON
1e2 LATIN CAPITAL LETTER AE WITH MACRON
1e3 LATIN SMALL LETTER AE WITH MACRON
1e4 LATIN CAPITAL LETTER G WITH STROKE
1e5 LATIN SMALL LETTER G WITH STROKE
1e6 LATIN CAPITAL LETTER G WITH CARON
1e7 LATIN SMALL LETTER G WITH CARON
1e8 LATIN CAPITAL LETTER K WITH CARON
1e9 LATIN SMALL LETTER K WITH CARON
1ea LATIN CAPITAL LETTER O WITH OGONEK
1eb LATIN SMALL LETTER O WITH OGONEK
1ec LATIN CAPITAL LETTER O WITH OGONEK AND MACRON
1ed LATIN SMALL LETTER O WITH OGONEK AND MACRON
1ee LATIN CAPITAL LETTER EZH WITH CARON
1ef LATIN SMALL LETTER EZH WITH CARON
1f0 LATIN SMALL LETTER J WITH CARON
1f1 LATIN CAPITAL LETTER DZ
1f2 LATIN CAPITAL LETTER D WITH SMALL LETTER Z
1f3 LATIN SMALL LETTER DZ
1f4 LATIN CAPITAL LETTER G WITH ACUTE
1f5 LATIN SMALL LETTER G WITH ACUTE
1f6 LATIN CAPITAL LETTER HWAIR
1f7 LATIN CAPITAL LETTER WYNN
1f8 LATIN CAPITAL LETTER N WITH GRAVE
1f9 LATIN SMALL LETTER N WITH GRAVE
1fa LATIN CAPITAL LETTER A WITH RING ABOVE AND ACUTE
1fb LATIN SMALL LETTER A WITH RING ABOVE AND ACUTE
1fc LATIN CAPITAL LETTER AE WITH ACUTE
1fd LATIN SMALL LETTER AE WITH ACUTE
1fe LATIN CAPITAL LETTER O WITH STROKE AND ACUTE
1ff LATIN SMALL LETTER O WITH STROKE AND ACUTE
200 LATIN CAPITAL LETTER A WITH DOUBLE GRAVE
201 LATIN SMALL LETTER A WITH DOUBLE GRAVE
202 LATIN CAPITAL LETTER A WITH INVERTED BREVE
203 LATIN SMALL LETTER A WITH INVERTED BREVE
204 LATIN CAPITAL LETTER E WITH DOUBLE GRAVE
205 LATIN SMALL LETTER E WITH DOUBLE GRAVE
206 LATIN CAPITAL LETTER E WITH INVERTED BREVE
207 LATIN SMALL LETTER E WITH INVERTED BREVE
208 LATIN CAPITAL LETTER I WITH DOUBLE GRAVE
209 LATIN SMALL LETTER I WITH DOUBLE GRAVE
20a LATIN CAPITAL LETTER I WITH INVERTED BREVE
20b LATIN SMALL LETTER I WITH INVERTED BREVE
20c LATIN CAPITAL LETTER O WITH DOUBLE GRAVE
20d LATIN SMALL LETTER O WITH DOUBLE GRAVE
20e LATIN CAPITAL LETTER O WITH INVERTED BREVE
20f LATIN SMALL LETTER O WITH INVERTED BREVE
210 LATIN CAPITAL LETTER R WITH DOUBLE GRAVE
211 LATIN SMALL LETTER R WITH DOUBLE GRAVE
212 LATIN CAPITAL LETTER R WITH INVERTED BREVE
213 LATIN SMALL LETTER R WITH INVERTED BREVE
214 LATIN CAPITAL LETTER U WITH DOUBLE GRAVE
215 LATIN SMALL LETTER U WITH DOUBLE GRAVE
216 LATIN CAPITAL LETTER U WITH INVERTED BREVE
217 LATIN SMALL LETTER U WITH INVERTED BREVE
218 LATIN CAPITAL LETTER S WITH COMMA BELOW
219 LATIN SMALL LETTER S WITH COMMA BELOW
21a LATIN CAPITAL LETTER T WITH COMMA BELOW
21b LATIN SMALL LETTER T WITH COMMA BELOW"

/-- Names, part 5: a number in hexadecimal and a name on each line. -/
def characterNames5 : String :=
  "21c LATIN CAPITAL LETTER YOGH
21d LATIN SMALL LETTER YOGH
21e LATIN CAPITAL LETTER H WITH CARON
21f LATIN SMALL LETTER H WITH CARON
220 LATIN CAPITAL LETTER N WITH LONG RIGHT LEG
221 LATIN SMALL LETTER D WITH CURL
222 LATIN CAPITAL LETTER OU
223 LATIN SMALL LETTER OU
224 LATIN CAPITAL LETTER Z WITH HOOK
225 LATIN SMALL LETTER Z WITH HOOK
226 LATIN CAPITAL LETTER A WITH DOT ABOVE
227 LATIN SMALL LETTER A WITH DOT ABOVE
228 LATIN CAPITAL LETTER E WITH CEDILLA
229 LATIN SMALL LETTER E WITH CEDILLA
22a LATIN CAPITAL LETTER O WITH DIAERESIS AND MACRON
22b LATIN SMALL LETTER O WITH DIAERESIS AND MACRON
22c LATIN CAPITAL LETTER O WITH TILDE AND MACRON
22d LATIN SMALL LETTER O WITH TILDE AND MACRON
22e LATIN CAPITAL LETTER O WITH DOT ABOVE
22f LATIN SMALL LETTER O WITH DOT ABOVE
230 LATIN CAPITAL LETTER O WITH DOT ABOVE AND MACRON
231 LATIN SMALL LETTER O WITH DOT ABOVE AND MACRON
232 LATIN CAPITAL LETTER Y WITH MACRON
233 LATIN SMALL LETTER Y WITH MACRON
234 LATIN SMALL LETTER L WITH CURL
235 LATIN SMALL LETTER N WITH CURL
236 LATIN SMALL LETTER T WITH CURL
237 LATIN SMALL LETTER DOTLESS J
238 LATIN SMALL LETTER DB DIGRAPH
239 LATIN SMALL LETTER QP DIGRAPH
23a LATIN CAPITAL LETTER A WITH STROKE
23b LATIN CAPITAL LETTER C WITH STROKE
23c LATIN SMALL LETTER C WITH STROKE
23d LATIN CAPITAL LETTER L WITH BAR
23e LATIN CAPITAL LETTER T WITH DIAGONAL STROKE
23f LATIN SMALL LETTER S WITH SWASH TAIL
240 LATIN SMALL LETTER Z WITH SWASH TAIL
241 LATIN CAPITAL LETTER GLOTTAL STOP
242 LATIN SMALL LETTER GLOTTAL STOP
243 LATIN CAPITAL LETTER B WITH STROKE
244 LATIN CAPITAL LETTER U BAR
245 LATIN CAPITAL LETTER TURNED V
246 LATIN CAPITAL LETTER E WITH STROKE
247 LATIN SMALL LETTER E WITH STROKE
248 LATIN CAPITAL LETTER J WITH STROKE
249 LATIN SMALL LETTER J WITH STROKE
24a LATIN CAPITAL LETTER SMALL Q WITH HOOK TAIL
24b LATIN SMALL LETTER Q WITH HOOK TAIL
24c LATIN CAPITAL LETTER R WITH STROKE
24d LATIN SMALL LETTER R WITH STROKE
24e LATIN CAPITAL LETTER Y WITH STROKE
24f LATIN SMALL LETTER Y WITH STROKE
250 LATIN SMALL LETTER TURNED A
251 LATIN SMALL LETTER ALPHA
252 LATIN SMALL LETTER TURNED ALPHA
253 LATIN SMALL LETTER B WITH HOOK
254 LATIN SMALL LETTER OPEN O
255 LATIN SMALL LETTER C WITH CURL
256 LATIN SMALL LETTER D WITH TAIL
257 LATIN SMALL LETTER D WITH HOOK
258 LATIN SMALL LETTER REVERSED E
259 LATIN SMALL LETTER SCHWA
25a LATIN SMALL LETTER SCHWA WITH HOOK
25b LATIN SMALL LETTER OPEN E
25c LATIN SMALL LETTER REVERSED OPEN E
25d LATIN SMALL LETTER REVERSED OPEN E WITH HOOK
25e LATIN SMALL LETTER CLOSED REVERSED OPEN E
25f LATIN SMALL LETTER DOTLESS J WITH STROKE
260 LATIN SMALL LETTER G WITH HOOK
261 LATIN SMALL LETTER SCRIPT G
262 LATIN LETTER SMALL CAPITAL G
263 LATIN SMALL LETTER GAMMA
264 LATIN SMALL LETTER RAMS HORN
265 LATIN SMALL LETTER TURNED H
266 LATIN SMALL LETTER H WITH HOOK
267 LATIN SMALL LETTER HENG WITH HOOK
268 LATIN SMALL LETTER I WITH STROKE
269 LATIN SMALL LETTER IOTA
26a LATIN LETTER SMALL CAPITAL I
26b LATIN SMALL LETTER L WITH MIDDLE TILDE
26c LATIN SMALL LETTER L WITH BELT
26d LATIN SMALL LETTER L WITH RETROFLEX HOOK
26e LATIN SMALL LETTER LEZH
26f LATIN SMALL LETTER TURNED M
270 LATIN SMALL LETTER TURNED M WITH LONG LEG
271 LATIN SMALL LETTER M WITH HOOK
272 LATIN SMALL LETTER N WITH LEFT HOOK
273 LATIN SMALL LETTER N WITH RETROFLEX HOOK
274 LATIN LETTER SMALL CAPITAL N
275 LATIN SMALL LETTER BARRED O
276 LATIN LETTER SMALL CAPITAL OE
277 LATIN SMALL LETTER CLOSED OMEGA
278 LATIN SMALL LETTER PHI
279 LATIN SMALL LETTER TURNED R
27a LATIN SMALL LETTER TURNED R WITH LONG LEG
27b LATIN SMALL LETTER TURNED R WITH HOOK
27c LATIN SMALL LETTER R WITH LONG LEG
27d LATIN SMALL LETTER R WITH TAIL
27e LATIN SMALL LETTER R WITH FISHHOOK
27f LATIN SMALL LETTER REVERSED R WITH FISHHOOK
280 LATIN LETTER SMALL CAPITAL R
281 LATIN LETTER SMALL CAPITAL INVERTED R
282 LATIN SMALL LETTER S WITH HOOK
283 LATIN SMALL LETTER ESH
284 LATIN SMALL LETTER DOTLESS J WITH STROKE AND HOOK
285 LATIN SMALL LETTER SQUAT REVERSED ESH"

/-- Names, part 6: a number in hexadecimal and a name on each line. -/
def characterNames6 : String :=
  "286 LATIN SMALL LETTER ESH WITH CURL
287 LATIN SMALL LETTER TURNED T
288 LATIN SMALL LETTER T WITH RETROFLEX HOOK
289 LATIN SMALL LETTER U BAR
28a LATIN SMALL LETTER UPSILON
28b LATIN SMALL LETTER V WITH HOOK
28c LATIN SMALL LETTER TURNED V
28d LATIN SMALL LETTER TURNED W
28e LATIN SMALL LETTER TURNED Y
28f LATIN LETTER SMALL CAPITAL Y
290 LATIN SMALL LETTER Z WITH RETROFLEX HOOK
291 LATIN SMALL LETTER Z WITH CURL
292 LATIN SMALL LETTER EZH
293 LATIN SMALL LETTER EZH WITH CURL
294 LATIN LETTER GLOTTAL STOP
295 LATIN LETTER PHARYNGEAL VOICED FRICATIVE
296 LATIN LETTER INVERTED GLOTTAL STOP
297 LATIN LETTER STRETCHED C
298 LATIN LETTER BILABIAL CLICK
299 LATIN LETTER SMALL CAPITAL B
29a LATIN SMALL LETTER CLOSED OPEN E
29b LATIN LETTER SMALL CAPITAL G WITH HOOK
29c LATIN LETTER SMALL CAPITAL H
29d LATIN SMALL LETTER J WITH CROSSED-TAIL
29e LATIN SMALL LETTER TURNED K
29f LATIN LETTER SMALL CAPITAL L
2a0 LATIN SMALL LETTER Q WITH HOOK
2a1 LATIN LETTER GLOTTAL STOP WITH STROKE
2a2 LATIN LETTER REVERSED GLOTTAL STOP WITH STROKE
2a3 LATIN SMALL LETTER DZ DIGRAPH
2a4 LATIN SMALL LETTER DEZH DIGRAPH
2a5 LATIN SMALL LETTER DZ DIGRAPH WITH CURL
2a6 LATIN SMALL LETTER TS DIGRAPH
2a7 LATIN SMALL LETTER TESH DIGRAPH
2a8 LATIN SMALL LETTER TC DIGRAPH WITH CURL
2a9 LATIN SMALL LETTER FENG DIGRAPH
2aa LATIN SMALL LETTER LS DIGRAPH
2ab LATIN SMALL LETTER LZ DIGRAPH
2ac LATIN LETTER BILABIAL PERCUSSIVE
2ad LATIN LETTER BIDENTAL PERCUSSIVE
2ae LATIN SMALL LETTER TURNED H WITH FISHHOOK
2af LATIN SMALL LETTER TURNED H WITH FISHHOOK AND TAIL
2b0 MODIFIER LETTER SMALL H
2b1 MODIFIER LETTER SMALL H WITH HOOK
2b2 MODIFIER LETTER SMALL J
2b3 MODIFIER LETTER SMALL R
2b4 MODIFIER LETTER SMALL TURNED R
2b5 MODIFIER LETTER SMALL TURNED R WITH HOOK
2b6 MODIFIER LETTER SMALL CAPITAL INVERTED R
2b7 MODIFIER LETTER SMALL W
2b8 MODIFIER LETTER SMALL Y
2b9 MODIFIER LETTER PRIME
2ba MODIFIER LETTER DOUBLE PRIME
2bb MODIFIER LETTER TURNED COMMA
2bc MODIFIER LETTER APOSTROPHE
2bd MODIFIER LETTER REVERSED COMMA
2be MODIFIER LETTER RIGHT HALF RING
2bf MODIFIER LETTER LEFT HALF RING
2c0 MODIFIER LETTER GLOTTAL STOP
2c1 MODIFIER LETTER REVERSED GLOTTAL STOP
2c2 MODIFIER LETTER LEFT ARROWHEAD
2c3 MODIFIER LETTER RIGHT ARROWHEAD
2c4 MODIFIER LETTER UP ARROWHEAD
2c5 MODIFIER LETTER DOWN ARROWHEAD
2c6 MODIFIER LETTER CIRCUMFLEX ACCENT
2c7 CARON
2c8 MODIFIER LETTER VERTICAL LINE
2c9 MODIFIER LETTER MACRON
2ca MODIFIER LETTER ACUTE ACCENT
2cb MODIFIER LETTER GRAVE ACCENT
2cc MODIFIER LETTER LOW VERTICAL LINE
2cd MODIFIER LETTER LOW MACRON
2ce MODIFIER LETTER LOW GRAVE ACCENT
2cf MODIFIER LETTER LOW ACUTE ACCENT
2d0 MODIFIER LETTER TRIANGULAR COLON
2d1 MODIFIER LETTER HALF TRIANGULAR COLON
2d2 MODIFIER LETTER CENTRED RIGHT HALF RING
2d3 MODIFIER LETTER CENTRED LEFT HALF RING
2d4 MODIFIER LETTER UP TACK
2d5 MODIFIER LETTER DOWN TACK
2d6 MODIFIER LETTER PLUS SIGN
2d7 MODIFIER LETTER MINUS SIGN
2d8 BREVE
2d9 DOT ABOVE
2da RING ABOVE
2db OGONEK
2dc SMALL TILDE
2dd DOUBLE ACUTE ACCENT
2de MODIFIER LETTER RHOTIC HOOK
2df MODIFIER LETTER CROSS ACCENT
2e0 MODIFIER LETTER SMALL GAMMA
2e1 MODIFIER LETTER SMALL L
2e2 MODIFIER LETTER SMALL S
2e3 MODIFIER LETTER SMALL X
2e4 MODIFIER LETTER SMALL REVERSED GLOTTAL STOP
2e5 MODIFIER LETTER EXTRA-HIGH TONE BAR
2e6 MODIFIER LETTER HIGH TONE BAR
2e7 MODIFIER LETTER MID TONE BAR
2e8 MODIFIER LETTER LOW TONE BAR
2e9 MODIFIER LETTER EXTRA-LOW TONE BAR
2ea MODIFIER LETTER YIN DEPARTING TONE MARK
2eb MODIFIER LETTER YANG DEPARTING TONE MARK
2ec MODIFIER LETTER VOICING
2ed MODIFIER LETTER UNASPIRATED
2ee MODIFIER LETTER DOUBLE APOSTROPHE
2ef MODIFIER LETTER LOW DOWN ARROWHEAD
2f0 MODIFIER LETTER LOW UP ARROWHEAD
2f1 MODIFIER LETTER LOW LEFT ARROWHEAD
2f2 MODIFIER LETTER LOW RIGHT ARROWHEAD
2f3 MODIFIER LETTER LOW RING
2f4 MODIFIER LETTER MIDDLE GRAVE ACCENT
2f5 MODIFIER LETTER MIDDLE DOUBLE GRAVE ACCENT
2f6 MODIFIER LETTER MIDDLE DOUBLE ACUTE ACCENT
2f7 MODIFIER LETTER LOW TILDE
2f8 MODIFIER LETTER RAISED COLON
2f9 MODIFIER LETTER BEGIN HIGH TONE"

/-- Names, part 7: a number in hexadecimal and a name on each line. -/
def characterNames7 : String :=
  "2fa MODIFIER LETTER END HIGH TONE
2fb MODIFIER LETTER BEGIN LOW TONE
2fc MODIFIER LETTER END LOW TONE
2fd MODIFIER LETTER SHELF
2fe MODIFIER LETTER OPEN SHELF
2ff MODIFIER LETTER LOW LEFT ARROW
300 COMBINING GRAVE ACCENT
301 COMBINING ACUTE ACCENT
302 COMBINING CIRCUMFLEX ACCENT
303 COMBINING TILDE
304 COMBINING MACRON
305 COMBINING OVERLINE
306 COMBINING BREVE
307 COMBINING DOT ABOVE
308 COMBINING DIAERESIS
309 COMBINING HOOK ABOVE
30a COMBINING RING ABOVE
30b COMBINING DOUBLE ACUTE ACCENT
30c COMBINING CARON
30d COMBINING VERTICAL LINE ABOVE
30e COMBINING DOUBLE VERTICAL LINE ABOVE
30f COMBINING DOUBLE GRAVE ACCENT
310 COMBINING CANDRABINDU
311 COMBINING INVERTED BREVE
312 COMBINING TURNED COMMA ABOVE
313 COMBINING COMMA ABOVE
314 COMBINING REVERSED COMMA ABOVE
315 COMBINING COMMA ABOVE RIGHT
316 COMBINING GRAVE ACCENT BELOW
317 COMBINING ACUTE ACCENT BELOW
318 COMBINING LEFT TACK BELOW
319 COMBINING RIGHT TACK BELOW
31a COMBINING LEFT ANGLE ABOVE
31b COMBINING HORN
31c COMBINING LEFT HALF RING BELOW
31d COMBINING UP TACK BELOW
31e COMBINING DOWN TACK BELOW
31f COMBINING PLUS SIGN BELOW
320 COMBINING MINUS SIGN BELOW
321 COMBINING PALATALIZED HOOK BELOW
322 COMBINING RETROFLEX HOOK BELOW
323 COMBINING DOT BELOW
324 COMBINING DIAERESIS BELOW
325 COMBINING RING BELOW
326 COMBINING COMMA BELOW
327 COMBINING CEDILLA
328 COMBINING OGONEK
329 COMBINING VERTICAL LINE BELOW
32a COMBINING BRIDGE BELOW
32b COMBINING INVERTED DOUBLE ARCH BELOW
32c COMBINING CARON BELOW
32d COMBINING CIRCUMFLEX ACCENT BELOW
32e COMBINING BREVE BELOW
32f COMBINING INVERTED BREVE BELOW
330 COMBINING TILDE BELOW
331 COMBINING MACRON BELOW
332 COMBINING LOW LINE
333 COMBINING DOUBLE LOW LINE
334 COMBINING TILDE OVERLAY
335 COMBINING SHORT STROKE OVERLAY
336 COMBINING LONG STROKE OVERLAY
337 COMBINING SHORT SOLIDUS OVERLAY
338 COMBINING LONG SOLIDUS OVERLAY
339 COMBINING RIGHT HALF RING BELOW
33a COMBINING INVERTED BRIDGE BELOW
33b COMBINING SQUARE BELOW
33c COMBINING SEAGULL BELOW
33d COMBINING X ABOVE
33e COMBINING VERTICAL TILDE
33f COMBINING DOUBLE OVERLINE
340 COMBINING GRAVE TONE MARK
341 COMBINING ACUTE TONE MARK
342 COMBINING GREEK PERISPOMENI
343 COMBINING GREEK KORONIS
344 COMBINING GREEK DIALYTIKA TONOS
345 COMBINING GREEK YPOGEGRAMMENI
346 COMBINING BRIDGE ABOVE
347 COMBINING EQUALS SIGN BELOW
348 COMBINING DOUBLE VERTICAL LINE BELOW
349 COMBINING LEFT ANGLE BELOW
34a COMBINING NOT TILDE ABOVE
34b COMBINING HOMOTHETIC ABOVE
34c COMBINING ALMOST EQUAL TO ABOVE
34d COMBINING LEFT RIGHT ARROW BELOW
34e COMBINING UPWARDS ARROW BELOW
34f COMBINING GRAPHEME JOINER
350 COMBINING RIGHT ARROWHEAD ABOVE
351 COMBINING LEFT HALF RING ABOVE
352 COMBINING FERMATA
353 COMBINING X BELOW
354 COMBINING LEFT ARROWHEAD BELOW
355 COMBINING RIGHT ARROWHEAD BELOW
356 COMBINING RIGHT ARROWHEAD AND UP ARROWHEAD BELOW
357 COMBINING RIGHT HALF RING ABOVE
358 COMBINING DOT ABOVE RIGHT
359 COMBINING ASTERISK BELOW
35a COMBINING DOUBLE RING BELOW
35b COMBINING ZIGZAG ABOVE
35c COMBINING DOUBLE BREVE BELOW
35d COMBINING DOUBLE BREVE
35e COMBINING DOUBLE MACRON
35f COMBINING DOUBLE MACRON BELOW
360 COMBINING DOUBLE TILDE
361 COMBINING DOUBLE INVERTED BREVE
362 COMBINING DOUBLE RIGHTWARDS ARROW BELOW
363 COMBINING LATIN SMALL LETTER A
364 COMBINING LATIN SMALL LETTER E
365 COMBINING LATIN SMALL LETTER I
366 COMBINING LATIN SMALL LETTER O
367 COMBINING LATIN SMALL LETTER U
368 COMBINING LATIN SMALL LETTER C
369 COMBINING LATIN SMALL LETTER D
36a COMBINING LATIN SMALL LETTER H
36b COMBINING LATIN SMALL LETTER M
36c COMBINING LATIN SMALL LETTER R
36d COMBINING LATIN SMALL LETTER T
36e COMBINING LATIN SMALL LETTER V
36f COMBINING LATIN SMALL LETTER X
370 GREEK CAPITAL LETTER HETA
371 GREEK SMALL LETTER HETA
372 GREEK CAPITAL LETTER ARCHAIC SAMPI
373 GREEK SMALL LETTER ARCHAIC SAMPI
374 GREEK NUMERAL SIGN
375 GREEK LOWER NUMERAL SIGN
376 GREEK CAPITAL LETTER PAMPHYLIAN DIGAMMA
377 GREEK SMALL LETTER PAMPHYLIAN DIGAMMA
37a GREEK YPOGEGRAMMENI"

/-- Names, part 8: a number in hexadecimal and a name on each line. -/
def characterNames8 : String :=
  "37b GREEK SMALL REVERSED LUNATE SIGMA SYMBOL
37c GREEK SMALL DOTTED LUNATE SIGMA SYMBOL
37d GREEK SMALL REVERSED DOTTED LUNATE SIGMA SYMBOL
37e GREEK QUESTION MARK
37f GREEK CAPITAL LETTER YOT
384 GREEK TONOS
385 GREEK DIALYTIKA TONOS
386 GREEK CAPITAL LETTER ALPHA WITH TONOS
387 GREEK ANO TELEIA
388 GREEK CAPITAL LETTER EPSILON WITH TONOS
389 GREEK CAPITAL LETTER ETA WITH TONOS
38a GREEK CAPITAL LETTER IOTA WITH TONOS
38c GREEK CAPITAL LETTER OMICRON WITH TONOS
38e GREEK CAPITAL LETTER UPSILON WITH TONOS
38f GREEK CAPITAL LETTER OMEGA WITH TONOS
390 GREEK SMALL LETTER IOTA WITH DIALYTIKA AND TONOS
391 GREEK CAPITAL LETTER ALPHA
392 GREEK CAPITAL LETTER BETA
393 GREEK CAPITAL LETTER GAMMA
394 GREEK CAPITAL LETTER DELTA
395 GREEK CAPITAL LETTER EPSILON
396 GREEK CAPITAL LETTER ZETA
397 GREEK CAPITAL LETTER ETA
398 GREEK CAPITAL LETTER THETA
399 GREEK CAPITAL LETTER IOTA
39a GREEK CAPITAL LETTER KAPPA
39b GREEK CAPITAL LETTER LAMDA
39c GREEK CAPITAL LETTER MU
39d GREEK CAPITAL LETTER NU
39e GREEK CAPITAL LETTER XI
39f GREEK CAPITAL LETTER OMICRON
3a0 GREEK CAPITAL LETTER PI
3a1 GREEK CAPITAL LETTER RHO
3a3 GREEK CAPITAL LETTER SIGMA
3a4 GREEK CAPITAL LETTER TAU
3a5 GREEK CAPITAL LETTER UPSILON
3a6 GREEK CAPITAL LETTER PHI
3a7 GREEK CAPITAL LETTER CHI
3a8 GREEK CAPITAL LETTER PSI
3a9 GREEK CAPITAL LETTER OMEGA
3aa GREEK CAPITAL LETTER IOTA WITH DIALYTIKA
3ab GREEK CAPITAL LETTER UPSILON WITH DIALYTIKA
3ac GREEK SMALL LETTER ALPHA WITH TONOS
3ad GREEK SMALL LETTER EPSILON WITH TONOS
3ae GREEK SMALL LETTER ETA WITH TONOS
3af GREEK SMALL LETTER IOTA WITH TONOS
3b0 GREEK SMALL LETTER UPSILON WITH DIALYTIKA AND TONOS
3b1 GREEK SMALL LETTER ALPHA
3b2 GREEK SMALL LETTER BETA
3b3 GREEK SMALL LETTER GAMMA
3b4 GREEK SMALL LETTER DELTA
3b5 GREEK SMALL LETTER EPSILON
3b6 GREEK SMALL LETTER ZETA
3b7 GREEK SMALL LETTER ETA
3b8 GREEK SMALL LETTER THETA
3b9 GREEK SMALL LETTER IOTA
3ba GREEK SMALL LETTER KAPPA
3bb GREEK SMALL LETTER LAMDA
3bc GREEK SMALL LETTER MU
3bd GREEK SMALL LETTER NU
3be GREEK SMALL LETTER XI
3bf GREEK SMALL LETTER OMICRON
3c0 GREEK SMALL LETTER PI
3c1 GREEK SMALL LETTER RHO
3c2 GREEK SMALL LETTER FINAL SIGMA
3c3 GREEK SMALL LETTER SIGMA
3c4 GREEK SMALL LETTER TAU
3c5 GREEK SMALL LETTER UPSILON
3c6 GREEK SMALL LETTER PHI
3c7 GREEK SMALL LETTER CHI
3c8 GREEK SMALL LETTER PSI
3c9 GREEK SMALL LETTER OMEGA
3ca GREEK SMALL LETTER IOTA WITH DIALYTIKA
3cb GREEK SMALL LETTER UPSILON WITH DIALYTIKA
3cc GREEK SMALL LETTER OMICRON WITH TONOS
3cd GREEK SMALL LETTER UPSILON WITH TONOS
3ce GREEK SMALL LETTER OMEGA WITH TONOS
3cf GREEK CAPITAL KAI SYMBOL
3d0 GREEK BETA SYMBOL
3d1 GREEK THETA SYMBOL
3d2 GREEK UPSILON WITH HOOK SYMBOL
3d3 GREEK UPSILON WITH ACUTE AND HOOK SYMBOL
3d4 GREEK UPSILON WITH DIAERESIS AND HOOK SYMBOL
3d5 GREEK PHI SYMBOL
3d6 GREEK PI SYMBOL
3d7 GREEK KAI SYMBOL
3d8 GREEK LETTER ARCHAIC KOPPA
3d9 GREEK SMALL LETTER ARCHAIC KOPPA
3da GREEK LETTER STIGMA
3db GREEK SMALL LETTER STIGMA
3dc GREEK LETTER DIGAMMA
3dd GREEK SMALL LETTER DIGAMMA
3de GREEK LETTER KOPPA
3df GREEK SMALL LETTER KOPPA
3e0 GREEK LETTER SAMPI
3e1 GREEK SMALL LETTER SAMPI
3e2 COPTIC CAPITAL LETTER SHEI
3e3 COPTIC SMALL LETTER SHEI
3e4 COPTIC CAPITAL LETTER FEI
3e5 COPTIC SMALL LETTER FEI
3e6 COPTIC CAPITAL LETTER KHEI
3e7 COPTIC SMALL LETTER KHEI
3e8 COPTIC CAPITAL LETTER HORI
3e9 COPTIC SMALL LETTER HORI
3ea COPTIC CAPITAL LETTER GANGIA
3eb COPTIC SMALL LETTER GANGIA
3ec COPTIC CAPITAL LETTER SHIMA
3ed COPTIC SMALL LETTER SHIMA
3ee COPTIC CAPITAL LETTER DEI
3ef COPTIC SMALL LETTER DEI
3f0 GREEK KAPPA SYMBOL
3f1 GREEK RHO SYMBOL
3f2 GREEK LUNATE SIGMA SYMBOL
3f3 GREEK LETTER YOT
3f4 GREEK CAPITAL THETA SYMBOL
3f5 GREEK LUNATE EPSILON SYMBOL
3f6 GREEK REVERSED LUNATE EPSILON SYMBOL
3f7 GREEK CAPITAL LETTER SHO
3f8 GREEK SMALL LETTER SHO
3f9 GREEK CAPITAL LUNATE SIGMA SYMBOL
3fa GREEK CAPITAL LETTER SAN
3fb GREEK SMALL LETTER SAN
3fc GREEK RHO WITH STROKE SYMBOL
3fd GREEK CAPITAL REVERSED LUNATE SIGMA SYMBOL"

/-- Names, part 9: a number in hexadecimal and a name on each line. -/
def characterNames9 : String :=
  "3fe GREEK CAPITAL DOTTED LUNATE SIGMA SYMBOL
3ff GREEK CAPITAL REVERSED DOTTED LUNATE SIGMA SYMBOL
400 CYRILLIC CAPITAL LETTER IE WITH GRAVE
401 CYRILLIC CAPITAL LETTER IO
402 CYRILLIC CAPITAL LETTER DJE
403 CYRILLIC CAPITAL LETTER GJE
404 CYRILLIC CAPITAL LETTER UKRAINIAN IE
405 CYRILLIC CAPITAL LETTER DZE
406 CYRILLIC CAPITAL LETTER BYELORUSSIAN-UKRAINIAN I
407 CYRILLIC CAPITAL LETTER YI
408 CYRILLIC CAPITAL LETTER JE
409 CYRILLIC CAPITAL LETTER LJE
40a CYRILLIC CAPITAL LETTER NJE
40b CYRILLIC CAPITAL LETTER TSHE
40c CYRILLIC CAPITAL LETTER KJE
40d CYRILLIC CAPITAL LETTER I WITH GRAVE
40e CYRILLIC CAPITAL LETTER SHORT U
40f CYRILLIC CAPITAL LETTER DZHE
410 CYRILLIC CAPITAL LETTER A
411 CYRILLIC CAPITAL LETTER BE
412 CYRILLIC CAPITAL LETTER VE
413 CYRILLIC CAPITAL LETTER GHE
414 CYRILLIC CAPITAL LETTER DE
415 CYRILLIC CAPITAL LETTER IE
416 CYRILLIC CAPITAL LETTER ZHE
417 CYRILLIC CAPITAL LETTER ZE
418 CYRILLIC CAPITAL LETTER I
419 CYRILLIC CAPITAL LETTER SHORT I
41a CYRILLIC CAPITAL LETTER KA
41b CYRILLIC CAPITAL LETTER EL
41c CYRILLIC CAPITAL LETTER EM
41d CYRILLIC CAPITAL LETTER EN
41e CYRILLIC CAPITAL LETTER O
41f CYRILLIC CAPITAL LETTER PE
420 CYRILLIC CAPITAL LETTER ER
421 CYRILLIC CAPITAL LETTER ES
422 CYRILLIC CAPITAL LETTER TE
423 CYRILLIC CAPITAL LETTER U
424 CYRILLIC CAPITAL LETTER EF
425 CYRILLIC CAPITAL LETTER HA
426 CYRILLIC CAPITAL LETTER TSE
427 CYRILLIC CAPITAL LETTER CHE
428 CYRILLIC CAPITAL LETTER SHA
429 CYRILLIC CAPITAL LETTER SHCHA
42a CYRILLIC CAPITAL LETTER HARD SIGN
42b CYRILLIC CAPITAL LETTER YERU
42c CYRILLIC CAPITAL LETTER SOFT SIGN
42d CYRILLIC CAPITAL LETTER E
42e CYRILLIC CAPITAL LETTER YU
42f CYRILLIC CAPITAL LETTER YA
430 CYRILLIC SMALL LETTER A
431 CYRILLIC SMALL LETTER BE
432 CYRILLIC SMALL LETTER VE
433 CYRILLIC SMALL LETTER GHE
434 CYRILLIC SMALL LETTER DE
435 CYRILLIC SMALL LETTER IE
436 CYRILLIC SMALL LETTER ZHE
437 CYRILLIC SMALL LETTER ZE
438 CYRILLIC SMALL LETTER I
439 CYRILLIC SMALL LETTER SHORT I
43a CYRILLIC SMALL LETTER KA
43b CYRILLIC SMALL LETTER EL
43c CYRILLIC SMALL LETTER EM
43d CYRILLIC SMALL LETTER EN
43e CYRILLIC SMALL LETTER O
43f CYRILLIC SMALL LETTER PE
440 CYRILLIC SMALL LETTER ER
441 CYRILLIC SMALL LETTER ES
442 CYRILLIC SMALL LETTER TE
443 CYRILLIC SMALL LETTER U
444 CYRILLIC SMALL LETTER EF
445 CYRILLIC SMALL LETTER HA
446 CYRILLIC SMALL LETTER TSE
447 CYRILLIC SMALL LETTER CHE
448 CYRILLIC SMALL LETTER SHA
449 CYRILLIC SMALL LETTER SHCHA
44a CYRILLIC SMALL LETTER HARD SIGN
44b CYRILLIC SMALL LETTER YERU
44c CYRILLIC SMALL LETTER SOFT SIGN
44d CYRILLIC SMALL LETTER E
44e CYRILLIC SMALL LETTER YU
44f CYRILLIC SMALL LETTER YA
450 CYRILLIC SMALL LETTER IE WITH GRAVE
451 CYRILLIC SMALL LETTER IO
452 CYRILLIC SMALL LETTER DJE
453 CYRILLIC SMALL LETTER GJE
454 CYRILLIC SMALL LETTER UKRAINIAN IE
455 CYRILLIC SMALL LETTER DZE
456 CYRILLIC SMALL LETTER BYELORUSSIAN-UKRAINIAN I
457 CYRILLIC SMALL LETTER YI
458 CYRILLIC SMALL LETTER JE
459 CYRILLIC SMALL LETTER LJE
45a CYRILLIC SMALL LETTER NJE
45b CYRILLIC SMALL LETTER TSHE
45c CYRILLIC SMALL LETTER KJE
45d CYRILLIC SMALL LETTER I WITH GRAVE
45e CYRILLIC SMALL LETTER SHORT U
45f CYRILLIC SMALL LETTER DZHE
460 CYRILLIC CAPITAL LETTER OMEGA
461 CYRILLIC SMALL LETTER OMEGA
462 CYRILLIC CAPITAL LETTER YAT
463 CYRILLIC SMALL LETTER YAT
464 CYRILLIC CAPITAL LETTER IOTIFIED E
465 CYRILLIC SMALL LETTER IOTIFIED E
466 CYRILLIC CAPITAL LETTER LITTLE YUS
467 CYRILLIC SMALL LETTER LITTLE YUS
468 CYRILLIC CAPITAL LETTER IOTIFIED LITTLE YUS
469 CYRILLIC SMALL LETTER IOTIFIED LITTLE YUS
46a CYRILLIC CAPITAL LETTER BIG YUS
46b CYRILLIC SMALL LETTER BIG YUS
46c CYRILLIC CAPITAL LETTER IOTIFIED BIG YUS
46d CYRILLIC SMALL LETTER IOTIFIED BIG YUS
46e CYRILLIC CAPITAL LETTER KSI
46f CYRILLIC SMALL LETTER KSI
470 CYRILLIC CAPITAL LETTER PSI
471 CYRILLIC SMALL LETTER PSI
472 CYRILLIC CAPITAL LETTER FITA
473 CYRILLIC SMALL LETTER FITA
474 CYRILLIC CAPITAL LETTER IZHITSA
475 CYRILLIC SMALL LETTER IZHITSA"

/-- Names, part 10: a number in hexadecimal and a name on each line. -/
def characterNames10 : String :=
  "476 CYRILLIC CAPITAL LETTER IZHITSA WITH DOUBLE GRAVE ACCENT
477 CYRILLIC SMALL LETTER IZHITSA WITH DOUBLE GRAVE ACCENT
478 CYRILLIC CAPITAL LETTER UK
479 CYRILLIC SMALL LETTER UK
47a CYRILLIC CAPITAL LETTER ROUND OMEGA
47b CYRILLIC SMALL LETTER ROUND OMEGA
47c CYRILLIC CAPITAL LETTER OMEGA WITH TITLO
47d CYRILLIC SMALL LETTER OMEGA WITH TITLO
47e CYRILLIC CAPITAL LETTER OT
47f CYRILLIC SMALL LETTER OT
480 CYRILLIC CAPITAL LETTER KOPPA
481 CYRILLIC SMALL LETTER KOPPA
482 CYRILLIC THOUSANDS SIGN
483 COMBINING CYRILLIC TITLO
484 COMBINING CYRILLIC PALATALIZATION
485 COMBINING CYRILLIC DASIA PNEUMATA
486 COMBINING CYRILLIC PSILI PNEUMATA
487 COMBINING CYRILLIC POKRYTIE
488 COMBINING CYRILLIC HUNDRED THOUSANDS SIGN
489 COMBINING CYRILLIC MILLIONS SIGN
48a CYRILLIC CAPITAL LETTER SHORT I WITH TAIL
48b CYRILLIC SMALL LETTER SHORT I WITH TAIL
48c CYRILLIC CAPITAL LETTER SEMISOFT SIGN
48d CYRILLIC SMALL LETTER SEMISOFT SIGN
48e CYRILLIC CAPITAL LETTER ER WITH TICK
48f CYRILLIC SMALL LETTER ER WITH TICK
490 CYRILLIC CAPITAL LETTER GHE WITH UPTURN
491 CYRILLIC SMALL LETTER GHE WITH UPTURN
492 CYRILLIC CAPITAL LETTER GHE WITH STROKE
493 CYRILLIC SMALL LETTER GHE WITH STROKE
494 CYRILLIC CAPITAL LETTER GHE WITH MIDDLE HOOK
495 CYRILLIC SMALL LETTER GHE WITH MIDDLE HOOK
496 CYRILLIC CAPITAL LETTER ZHE WITH DESCENDER
497 CYRILLIC SMALL LETTER ZHE WITH DESCENDER
498 CYRILLIC CAPITAL LETTER ZE WITH DESCENDER
499 CYRILLIC SMALL LETTER ZE WITH DESCENDER
49a CYRILLIC CAPITAL LETTER KA WITH DESCENDER
49b CYRILLIC SMALL LETTER KA WITH DESCENDER
49c CYRILLIC CAPITAL LETTER KA WITH VERTICAL STROKE
49d CYRILLIC SMALL LETTER KA WITH VERTICAL STROKE
49e CYRILLIC CAPITAL LETTER KA WITH STROKE
49f CYRILLIC SMALL LETTER KA WITH STROKE
4a0 CYRILLIC CAPITAL LETTER BASHKIR KA
4a1 CYRILLIC SMALL LETTER BASHKIR KA
4a2 CYRILLIC CAPITAL LETTER EN WITH DESCENDER
4a3 CYRILLIC SMALL LETTER EN WITH DESCENDER
4a4 CYRILLIC CAPITAL LIGATURE EN GHE
4a5 CYRILLIC SMALL LIGATURE EN GHE
4a6 CYRILLIC CAPITAL LETTER PE WITH MIDDLE HOOK
4a7 CYRILLIC SMALL LETTER PE WITH MIDDLE HOOK
4a8 CYRILLIC CAPITAL LETTER ABKHASIAN HA
4a9 CYRILLIC SMALL LETTER ABKHASIAN HA
4aa CYRILLIC CAPITAL LETTER ES WITH DESCENDER
4ab CYRILLIC SMALL LETTER ES WITH DESCENDER
4ac CYRILLIC CAPITAL LETTER TE WITH DESCENDER
4ad CYRILLIC SMALL LETTER TE WITH DESCENDER
4ae CYRILLIC CAPITAL LETTER STRAIGHT U
4af CYRILLIC SMALL LETTER STRAIGHT U
4b0 CYRILLIC CAPITAL LETTER STRAIGHT U WITH STROKE
4b1 CYRILLIC SMALL LETTER STRAIGHT U WITH STROKE
4b2 CYRILLIC CAPITAL LETTER HA WITH DESCENDER
4b3 CYRILLIC SMALL LETTER HA WITH DESCENDER
4b4 CYRILLIC CAPITAL LIGATURE TE TSE
4b5 CYRILLIC SMALL LIGATURE TE TSE
4b6 CYRILLIC CAPITAL LETTER CHE WITH DESCENDER
4b7 CYRILLIC SMALL LETTER CHE WITH DESCENDER
4b8 CYRILLIC CAPITAL LETTER CHE WITH VERTICAL STROKE
4b9 CYRILLIC SMALL LETTER CHE WITH VERTICAL STROKE
4ba CYRILLIC CAPITAL LETTER SHHA
4bb CYRILLIC SMALL LETTER SHHA
4bc CYRILLIC CAPITAL LETTER ABKHASIAN CHE
4bd CYRILLIC SMALL LETTER ABKHASIAN CHE
4be CYRILLIC CAPITAL LETTER ABKHASIAN CHE WITH DESCENDER
4bf CYRILLIC SMALL LETTER ABKHASIAN CHE WITH DESCENDER
4c0 CYRILLIC LETTER PALOCHKA
4c1 CYRILLIC CAPITAL LETTER ZHE WITH BREVE
4c2 CYRILLIC SMALL LETTER ZHE WITH BREVE
4c3 CYRILLIC CAPITAL LETTER KA WITH HOOK
4c4 CYRILLIC SMALL LETTER KA WITH HOOK
4c5 CYRILLIC CAPITAL LETTER EL WITH TAIL
4c6 CYRILLIC SMALL LETTER EL WITH TAIL
4c7 CYRILLIC CAPITAL LETTER EN WITH HOOK
4c8 CYRILLIC SMALL LETTER EN WITH HOOK
4c9 CYRILLIC CAPITAL LETTER EN WITH TAIL
4ca CYRILLIC SMALL LETTER EN WITH TAIL
4cb CYRILLIC CAPITAL LETTER KHAKASSIAN CHE
4cc CYRILLIC SMALL LETTER KHAKASSIAN CHE
4cd CYRILLIC CAPITAL LETTER EM WITH TAIL
4ce CYRILLIC SMALL LETTER EM WITH TAIL
4cf CYRILLIC SMALL LETTER PALOCHKA
4d0 CYRILLIC CAPITAL LETTER A WITH BREVE
4d1 CYRILLIC SMALL LETTER A WITH BREVE
4d2 CYRILLIC CAPITAL LETTER A WITH DIAERESIS
4d3 CYRILLIC SMALL LETTER A WITH DIAERESIS
4d4 CYRILLIC CAPITAL LIGATURE A IE
4d5 CYRILLIC SMALL LIGATURE A IE"

/-- Names, part 11: a number in hexadecimal and a name on each line. -/
def characterNames11 : String :=
  "4d6 CYRILLIC CAPITAL LETTER IE WITH BREVE
4d7 CYRILLIC SMALL LETTER IE WITH BREVE
4d8 CYRILLIC CAPITAL LETTER SCHWA
4d9 CYRILLIC SMALL LETTER SCHWA
4da CYRILLIC CAPITAL LETTER SCHWA WITH DIAERESIS
4db CYRILLIC SMALL LETTER SCHWA WITH DIAERESIS
4dc CYRILLIC CAPITAL LETTER ZHE WITH DIAERESIS
4dd CYRILLIC SMALL LETTER ZHE WITH DIAERESIS
4de CYRILLIC CAPITAL LETTER ZE WITH DIAERESIS
4df CYRILLIC SMALL LETTER ZE WITH DIAERESIS
4e0 CYRILLIC CAPITAL LETTER ABKHASIAN DZE
4e1 CYRILLIC SMALL LETTER ABKHASIAN DZE
4e2 CYRILLIC CAPITAL LETTER I WITH MACRON
4e3 CYRILLIC SMALL LETTER I WITH MACRON
4e4 CYRILLIC CAPITAL LETTER I WITH DIAERESIS
4e5 CYRILLIC SMALL LETTER I WITH DIAERESIS
4e6 CYRILLIC CAPITAL LETTER O WITH DIAERESIS
4e7 CYRILLIC SMALL LETTER O WITH DIAERESIS
4e8 CYRILLIC CAPITAL LETTER BARRED O
4e9 CYRILLIC SMALL LETTER BARRED O
4ea CYRILLIC CAPITAL LETTER BARRED O WITH DIAERESIS
4eb CYRILLIC SMALL LETTER BARRED O WITH DIAERESIS
4ec CYRILLIC CAPITAL LETTER E WITH DIAERESIS
4ed CYRILLIC SMALL LETTER E WITH DIAERESIS
4ee CYRILLIC CAPITAL LETTER U WITH MACRON
4ef CYRILLIC SMALL LETTER U WITH MACRON
4f0 CYRILLIC CAPITAL LETTER U WITH DIAERESIS
4f1 CYRILLIC SMALL LETTER U WITH DIAERESIS
4f2 CYRILLIC CAPITAL LETTER U WITH DOUBLE ACUTE
4f3 CYRILLIC SMALL LETTER U WITH DOUBLE ACUTE
4f4 CYRILLIC CAPITAL LETTER CHE WITH DIAERESIS
4f5 CYRILLIC SMALL LETTER CHE WITH DIAERESIS
4f6 CYRILLIC CAPITAL LETTER GHE WITH DESCENDER
4f7 CYRILLIC SMALL LETTER GHE WITH DESCENDER
4f8 CYRILLIC CAPITAL LETTER YERU WITH DIAERESIS
4f9 CYRILLIC SMALL LETTER YERU WITH DIAERESIS
4fa CYRILLIC CAPITAL LETTER GHE WITH STROKE AND HOOK
4fb CYRILLIC SMALL LETTER GHE WITH STROKE AND HOOK
4fc CYRILLIC CAPITAL LETTER HA WITH HOOK
4fd CYRILLIC SMALL LETTER HA WITH HOOK
4fe CYRILLIC CAPITAL LETTER HA WITH STROKE
4ff CYRILLIC SMALL LETTER HA WITH STROKE
5d0 HEBREW LETTER ALEF
5d1 HEBREW LETTER BET
5d2 HEBREW LETTER GIMEL
5d3 HEBREW LETTER DALET
5d4 HEBREW LETTER HE
5d5 HEBREW LETTER VAV
5d6 HEBREW LETTER ZAYIN
5d7 HEBREW LETTER HET
5d8 HEBREW LETTER TET
5d9 HEBREW LETTER YOD
5da HEBREW LETTER FINAL KAF
5db HEBREW LETTER KAF
5dc HEBREW LETTER LAMED
5dd HEBREW LETTER FINAL MEM
5de HEBREW LETTER MEM
5df HEBREW LETTER FINAL NUN
5e0 HEBREW LETTER NUN
5e1 HEBREW LETTER SAMEKH
5e2 HEBREW LETTER AYIN
5e3 HEBREW LETTER FINAL PE
5e4 HEBREW LETTER PE
5e5 HEBREW LETTER FINAL TSADI
5e6 HEBREW LETTER TSADI
5e7 HEBREW LETTER QOF
5e8 HEBREW LETTER RESH
5e9 HEBREW LETTER SHIN
5ea HEBREW LETTER TAV
627 ARABIC LETTER ALEF
628 ARABIC LETTER BEH
629 ARABIC LETTER TEH MARBUTA
62a ARABIC LETTER TEH
62b ARABIC LETTER THEH
62c ARABIC LETTER JEEM
62d ARABIC LETTER HAH
62e ARABIC LETTER KHAH
62f ARABIC LETTER DAL
630 ARABIC LETTER THAL
631 ARABIC LETTER REH
632 ARABIC LETTER ZAIN
633 ARABIC LETTER SEEN
634 ARABIC LETTER SHEEN
635 ARABIC LETTER SAD
636 ARABIC LETTER DAD
637 ARABIC LETTER TAH
638 ARABIC LETTER ZAH
639 ARABIC LETTER AIN
63a ARABIC LETTER GHAIN
63b ARABIC LETTER KEHEH WITH TWO DOTS ABOVE
63c ARABIC LETTER KEHEH WITH THREE DOTS BELOW
63d ARABIC LETTER FARSI YEH WITH INVERTED V
63e ARABIC LETTER FARSI YEH WITH TWO DOTS ABOVE
63f ARABIC LETTER FARSI YEH WITH THREE DOTS ABOVE
640 ARABIC TATWEEL
641 ARABIC LETTER FEH
642 ARABIC LETTER QAF
643 ARABIC LETTER KAF
644 ARABIC LETTER LAM
645 ARABIC LETTER MEEM
646 ARABIC LETTER NOON
647 ARABIC LETTER HEH
648 ARABIC LETTER WAW
649 ARABIC LETTER ALEF MAKSURA
64a ARABIC LETTER YEH
64b ARABIC FATHATAN
64c ARABIC DAMMATAN
64d ARABIC KASRATAN
64e ARABIC FATHA
64f ARABIC DAMMA
650 ARABIC KASRA
651 ARABIC SHADDA
652 ARABIC SUKUN
653 ARABIC MADDAH ABOVE
654 ARABIC HAMZA ABOVE
655 ARABIC HAMZA BELOW
656 ARABIC SUBSCRIPT ALEF
657 ARABIC INVERTED DAMMA
658 ARABIC MARK NOON GHUNNA
659 ARABIC ZWARAKAY
65a ARABIC VOWEL SIGN SMALL V ABOVE
65b ARABIC VOWEL SIGN INVERTED SMALL V ABOVE
65c ARABIC VOWEL SIGN DOT BELOW
65d ARABIC REVERSED DAMMA
65e ARABIC FATHA WITH TWO DOTS
65f ARABIC WAVY HAMZA BELOW
660 ARABIC-INDIC DIGIT ZERO
661 ARABIC-INDIC DIGIT ONE"

/-- Names, part 12: a number in hexadecimal and a name on each line. -/
def characterNames12 : String :=
  "662 ARABIC-INDIC DIGIT TWO
663 ARABIC-INDIC DIGIT THREE
664 ARABIC-INDIC DIGIT FOUR
665 ARABIC-INDIC DIGIT FIVE
666 ARABIC-INDIC DIGIT SIX
667 ARABIC-INDIC DIGIT SEVEN
668 ARABIC-INDIC DIGIT EIGHT
669 ARABIC-INDIC DIGIT NINE
905 DEVANAGARI LETTER A
906 DEVANAGARI LETTER AA
907 DEVANAGARI LETTER I
908 DEVANAGARI LETTER II
909 DEVANAGARI LETTER U
90a DEVANAGARI LETTER UU
90b DEVANAGARI LETTER VOCALIC R
90c DEVANAGARI LETTER VOCALIC L
90d DEVANAGARI LETTER CANDRA E
90e DEVANAGARI LETTER SHORT E
90f DEVANAGARI LETTER E
910 DEVANAGARI LETTER AI
911 DEVANAGARI LETTER CANDRA O
912 DEVANAGARI LETTER SHORT O
913 DEVANAGARI LETTER O
914 DEVANAGARI LETTER AU
915 DEVANAGARI LETTER KA
916 DEVANAGARI LETTER KHA
917 DEVANAGARI LETTER GA
918 DEVANAGARI LETTER GHA
919 DEVANAGARI LETTER NGA
91a DEVANAGARI LETTER CA
91b DEVANAGARI LETTER CHA
91c DEVANAGARI LETTER JA
91d DEVANAGARI LETTER JHA
91e DEVANAGARI LETTER NYA
91f DEVANAGARI LETTER TTA
920 DEVANAGARI LETTER TTHA
921 DEVANAGARI LETTER DDA
922 DEVANAGARI LETTER DDHA
923 DEVANAGARI LETTER NNA
924 DEVANAGARI LETTER TA
925 DEVANAGARI LETTER THA
926 DEVANAGARI LETTER DA
927 DEVANAGARI LETTER DHA
928 DEVANAGARI LETTER NA
929 DEVANAGARI LETTER NNNA
92a DEVANAGARI LETTER PA
92b DEVANAGARI LETTER PHA
92c DEVANAGARI LETTER BA
92d DEVANAGARI LETTER BHA
92e DEVANAGARI LETTER MA
92f DEVANAGARI LETTER YA
930 DEVANAGARI LETTER RA
931 DEVANAGARI LETTER RRA
932 DEVANAGARI LETTER LA
933 DEVANAGARI LETTER LLA
934 DEVANAGARI LETTER LLLA
935 DEVANAGARI LETTER VA
936 DEVANAGARI LETTER SHA
937 DEVANAGARI LETTER SSA
938 DEVANAGARI LETTER SA
939 DEVANAGARI LETTER HA
966 DEVANAGARI DIGIT ZERO
967 DEVANAGARI DIGIT ONE
968 DEVANAGARI DIGIT TWO
969 DEVANAGARI DIGIT THREE
96a DEVANAGARI DIGIT FOUR
96b DEVANAGARI DIGIT FIVE
96c DEVANAGARI DIGIT SIX
96d DEVANAGARI DIGIT SEVEN
96e DEVANAGARI DIGIT EIGHT
96f DEVANAGARI DIGIT NINE
1e00 LATIN CAPITAL LETTER A WITH RING BELOW
1e01 LATIN SMALL LETTER A WITH RING BELOW
1e02 LATIN CAPITAL LETTER B WITH DOT ABOVE
1e03 LATIN SMALL LETTER B WITH DOT ABOVE
1e04 LATIN CAPITAL LETTER B WITH DOT BELOW
1e05 LATIN SMALL LETTER B WITH DOT BELOW
1e06 LATIN CAPITAL LETTER B WITH LINE BELOW
1e07 LATIN SMALL LETTER B WITH LINE BELOW
1e08 LATIN CAPITAL LETTER C WITH CEDILLA AND ACUTE
1e09 LATIN SMALL LETTER C WITH CEDILLA AND ACUTE
1e0a LATIN CAPITAL LETTER D WITH DOT ABOVE
1e0b LATIN SMALL LETTER D WITH DOT ABOVE
1e0c LATIN CAPITAL LETTER D WITH DOT BELOW
1e0d LATIN SMALL LETTER D WITH DOT BELOW
1e0e LATIN CAPITAL LETTER D WITH LINE BELOW
1e0f LATIN SMALL LETTER D WITH LINE BELOW
1e10 LATIN CAPITAL LETTER D WITH CEDILLA
1e11 LATIN SMALL LETTER D WITH CEDILLA
1e12 LATIN CAPITAL LETTER D WITH CIRCUMFLEX BELOW
1e13 LATIN SMALL LETTER D WITH CIRCUMFLEX BELOW
1e14 LATIN CAPITAL LETTER E WITH MACRON AND GRAVE
1e15 LATIN SMALL LETTER E WITH MACRON AND GRAVE
1e16 LATIN CAPITAL LETTER E WITH MACRON AND ACUTE
1e17 LATIN SMALL LETTER E WITH MACRON AND ACUTE
1e18 LATIN CAPITAL LETTER E WITH CIRCUMFLEX BELOW
1e19 LATIN SMALL LETTER E WITH CIRCUMFLEX BELOW
1e1a LATIN CAPITAL LETTER E WITH TILDE BELOW
1e1b LATIN SMALL LETTER E WITH TILDE BELOW
1e1c LATIN CAPITAL LETTER E WITH CEDILLA AND BREVE
1e1d LATIN SMALL LETTER E WITH CEDILLA AND BREVE
1e1e LATIN CAPITAL LETTER F WITH DOT ABOVE
1e1f LATIN SMALL LETTER F WITH DOT ABOVE
1e20 LATIN CAPITAL LETTER G WITH MACRON
1e21 LATIN SMALL LETTER G WITH MACRON
1e22 LATIN CAPITAL LETTER H WITH DOT ABOVE
1e23 LATIN SMALL LETTER H WITH DOT ABOVE
1e24 LATIN CAPITAL LETTER H WITH DOT BELOW
1e25 LATIN SMALL LETTER H WITH DOT BELOW
1e26 LATIN CAPITAL LETTER H WITH DIAERESIS
1e27 LATIN SMALL LETTER H WITH DIAERESIS
1e28 LATIN CAPITAL LETTER H WITH CEDILLA
1e29 LATIN SMALL LETTER H WITH CEDILLA
1e2a LATIN CAPITAL LETTER H WITH BREVE BELOW
1e2b LATIN SMALL LETTER H WITH BREVE BELOW
1e2c LATIN CAPITAL LETTER I WITH TILDE BELOW
1e2d LATIN SMALL LETTER I WITH TILDE BELOW
1e2e LATIN CAPITAL LETTER I WITH DIAERESIS AND ACUTE
1e2f LATIN SMALL LETTER I WITH DIAERESIS AND ACUTE"

/-- Names, part 13: a number in hexadecimal and a name on each line. -/
def characterNames13 : String :=
  "1e30 LATIN CAPITAL LETTER K WITH ACUTE
1e31 LATIN SMALL LETTER K WITH ACUTE
1e32 LATIN CAPITAL LETTER K WITH DOT BELOW
1e33 LATIN SMALL LETTER K WITH DOT BELOW
1e34 LATIN CAPITAL LETTER K WITH LINE BELOW
1e35 LATIN SMALL LETTER K WITH LINE BELOW
1e36 LATIN CAPITAL LETTER L WITH DOT BELOW
1e37 LATIN SMALL LETTER L WITH DOT BELOW
1e38 LATIN CAPITAL LETTER L WITH DOT BELOW AND MACRON
1e39 LATIN SMALL LETTER L WITH DOT BELOW AND MACRON
1e3a LATIN CAPITAL LETTER L WITH LINE BELOW
1e3b LATIN SMALL LETTER L WITH LINE BELOW
1e3c LATIN CAPITAL LETTER L WITH CIRCUMFLEX BELOW
1e3d LATIN SMALL LETTER L WITH CIRCUMFLEX BELOW
1e3e LATIN CAPITAL LETTER M WITH ACUTE
1e3f LATIN SMALL LETTER M WITH ACUTE
1e40 LATIN CAPITAL LETTER M WITH DOT ABOVE
1e41 LATIN SMALL LETTER M WITH DOT ABOVE
1e42 LATIN CAPITAL LETTER M WITH DOT BELOW
1e43 LATIN SMALL LETTER M WITH DOT BELOW
1e44 LATIN CAPITAL LETTER N WITH DOT ABOVE
1e45 LATIN SMALL LETTER N WITH DOT ABOVE
1e46 LATIN CAPITAL LETTER N WITH DOT BELOW
1e47 LATIN SMALL LETTER N WITH DOT BELOW
1e48 LATIN CAPITAL LETTER N WITH LINE BELOW
1e49 LATIN SMALL LETTER N WITH LINE BELOW
1e4a LATIN CAPITAL LETTER N WITH CIRCUMFLEX BELOW
1e4b LATIN SMALL LETTER N WITH CIRCUMFLEX BELOW
1e4c LATIN CAPITAL LETTER O WITH TILDE AND ACUTE
1e4d LATIN SMALL LETTER O WITH TILDE AND ACUTE
1e4e LATIN CAPITAL LETTER O WITH TILDE AND DIAERESIS
1e4f LATIN SMALL LETTER O WITH TILDE AND DIAERESIS
1e50 LATIN CAPITAL LETTER O WITH MACRON AND GRAVE
1e51 LATIN SMALL LETTER O WITH MACRON AND GRAVE
1e52 LATIN CAPITAL LETTER O WITH MACRON AND ACUTE
1e53 LATIN SMALL LETTER O WITH MACRON AND ACUTE
1e54 LATIN CAPITAL LETTER P WITH ACUTE
1e55 LATIN SMALL LETTER P WITH ACUTE
1e56 LATIN CAPITAL LETTER P WITH DOT ABOVE
1e57 LATIN SMALL LETTER P WITH DOT ABOVE
1e58 LATIN CAPITAL LETTER R WITH DOT ABOVE
1e59 LATIN SMALL LETTER R WITH DOT ABOVE
1e5a LATIN CAPITAL LETTER R WITH DOT BELOW
1e5b LATIN SMALL LETTER R WITH DOT BELOW
1e5c LATIN CAPITAL LETTER R WITH DOT BELOW AND MACRON
1e5d LATIN SMALL LETTER R WITH DOT BELOW AND MACRON
1e5e LATIN CAPITAL LETTER R WITH LINE BELOW
1e5f LATIN SMALL LETTER R WITH LINE BELOW
1e60 LATIN CAPITAL LETTER S WITH DOT ABOVE
1e61 LATIN SMALL LETTER S WITH DOT ABOVE
1e62 LATIN CAPITAL LETTER S WITH DOT BELOW
1e63 LATIN SMALL LETTER S WITH DOT BELOW
1e64 LATIN CAPITAL LETTER S WITH ACUTE AND DOT ABOVE
1e65 LATIN SMALL LETTER S WITH ACUTE AND DOT ABOVE
1e66 LATIN CAPITAL LETTER S WITH CARON AND DOT ABOVE
1e67 LATIN SMALL LETTER S WITH CARON AND DOT ABOVE
1e68 LATIN CAPITAL LETTER S WITH DOT BELOW AND DOT ABOVE
1e69 LATIN SMALL LETTER S WITH DOT BELOW AND DOT ABOVE
1e6a LATIN CAPITAL LETTER T WITH DOT ABOVE
1e6b LATIN SMALL LETTER T WITH DOT ABOVE
1e6c LATIN CAPITAL LETTER T WITH DOT BELOW
1e6d LATIN SMALL LETTER T WITH DOT BELOW
1e6e LATIN CAPITAL LETTER T WITH LINE BELOW
1e6f LATIN SMALL LETTER T WITH LINE BELOW
1e70 LATIN CAPITAL LETTER T WITH CIRCUMFLEX BELOW
1e71 LATIN SMALL LETTER T WITH CIRCUMFLEX BELOW
1e72 LATIN CAPITAL LETTER U WITH DIAERESIS BELOW
1e73 LATIN SMALL LETTER U WITH DIAERESIS BELOW
1e74 LATIN CAPITAL LETTER U WITH TILDE BELOW
1e75 LATIN SMALL LETTER U WITH TILDE BELOW
1e76 LATIN CAPITAL LETTER U WITH CIRCUMFLEX BELOW
1e77 LATIN SMALL LETTER U WITH CIRCUMFLEX BELOW
1e78 LATIN CAPITAL LETTER U WITH TILDE AND ACUTE
1e79 LATIN SMALL LETTER U WITH TILDE AND ACUTE
1e7a LATIN CAPITAL LETTER U WITH MACRON AND DIAERESIS
1e7b LATIN SMALL LETTER U WITH MACRON AND DIAERESIS
1e7c LATIN CAPITAL LETTER V WITH TILDE
1e7d LATIN SMALL LETTER V WITH TILDE
1e7e LATIN CAPITAL LETTER V WITH DOT BELOW
1e7f LATIN SMALL LETTER V WITH DOT BELOW
1e80 LATIN CAPITAL LETTER W WITH GRAVE
1e81 LATIN SMALL LETTER W WITH GRAVE
1e82 LATIN CAPITAL LETTER W WITH ACUTE
1e83 LATIN SMALL LETTER W WITH ACUTE
1e84 LATIN CAPITAL LETTER W WITH DIAERESIS
1e85 LATIN SMALL LETTER W WITH DIAERESIS
1e86 LATIN CAPITAL LETTER W WITH DOT ABOVE
1e87 LATIN SMALL LETTER W WITH DOT ABOVE
1e88 LATIN CAPITAL LETTER W WITH DOT BELOW"

/-- Names, part 14: a number in hexadecimal and a name on each line. -/
def characterNames14 : String :=
  "1e89 LATIN SMALL LETTER W WITH DOT BELOW
1e8a LATIN CAPITAL LETTER X WITH DOT ABOVE
1e8b LATIN SMALL LETTER X WITH DOT ABOVE
1e8c LATIN CAPITAL LETTER X WITH DIAERESIS
1e8d LATIN SMALL LETTER X WITH DIAERESIS
1e8e LATIN CAPITAL LETTER Y WITH DOT ABOVE
1e8f LATIN SMALL LETTER Y WITH DOT ABOVE
1e90 LATIN CAPITAL LETTER Z WITH CIRCUMFLEX
1e91 LATIN SMALL LETTER Z WITH CIRCUMFLEX
1e92 LATIN CAPITAL LETTER Z WITH DOT BELOW
1e93 LATIN SMALL LETTER Z WITH DOT BELOW
1e94 LATIN CAPITAL LETTER Z WITH LINE BELOW
1e95 LATIN SMALL LETTER Z WITH LINE BELOW
1e96 LATIN SMALL LETTER H WITH LINE BELOW
1e97 LATIN SMALL LETTER T WITH DIAERESIS
1e98 LATIN SMALL LETTER W WITH RING ABOVE
1e99 LATIN SMALL LETTER Y WITH RING ABOVE
1e9a LATIN SMALL LETTER A WITH RIGHT HALF RING
1e9b LATIN SMALL LETTER LONG S WITH DOT ABOVE
1e9c LATIN SMALL LETTER LONG S WITH DIAGONAL STROKE
1e9d LATIN SMALL LETTER LONG S WITH HIGH STROKE
1e9e LATIN CAPITAL LETTER SHARP S
1e9f LATIN SMALL LETTER DELTA
1ea0 LATIN CAPITAL LETTER A WITH DOT BELOW
1ea1 LATIN SMALL LETTER A WITH DOT BELOW
1ea2 LATIN CAPITAL LETTER A WITH HOOK ABOVE
1ea3 LATIN SMALL LETTER A WITH HOOK ABOVE
1ea4 LATIN CAPITAL LETTER A WITH CIRCUMFLEX AND ACUTE
1ea5 LATIN SMALL LETTER A WITH CIRCUMFLEX AND ACUTE
1ea6 LATIN CAPITAL LETTER A WITH CIRCUMFLEX AND GRAVE
1ea7 LATIN SMALL LETTER A WITH CIRCUMFLEX AND GRAVE
1ea8 LATIN CAPITAL LETTER A WITH CIRCUMFLEX AND HOOK ABOVE
1ea9 LATIN SMALL LETTER A WITH CIRCUMFLEX AND HOOK ABOVE
1eaa LATIN CAPITAL LETTER A WITH CIRCUMFLEX AND TILDE
1eab LATIN SMALL LETTER A WITH CIRCUMFLEX AND TILDE
1eac LATIN CAPITAL LETTER A WITH CIRCUMFLEX AND DOT BELOW
1ead LATIN SMALL LETTER A WITH CIRCUMFLEX AND DOT BELOW
1eae LATIN CAPITAL LETTER A WITH BREVE AND ACUTE
1eaf LATIN SMALL LETTER A WITH BREVE AND ACUTE
1eb0 LATIN CAPITAL LETTER A WITH BREVE AND GRAVE
1eb1 LATIN SMALL LETTER A WITH BREVE AND GRAVE
1eb2 LATIN CAPITAL LETTER A WITH BREVE AND HOOK ABOVE
1eb3 LATIN SMALL LETTER A WITH BREVE AND HOOK ABOVE
1eb4 LATIN CAPITAL LETTER A WITH BREVE AND TILDE
1eb5 LATIN SMALL LETTER A WITH BREVE AND TILDE
1eb6 LATIN CAPITAL LETTER A WITH BREVE AND DOT BELOW
1eb7 LATIN SMALL LETTER A WITH BREVE AND DOT BELOW
1eb8 LATIN CAPITAL LETTER E WITH DOT BELOW
1eb9 LATIN SMALL LETTER E WITH DOT BELOW
1eba LATIN CAPITAL LETTER E WITH HOOK ABOVE
1ebb LATIN SMALL LETTER E WITH HOOK ABOVE
1ebc LATIN CAPITAL LETTER E WITH TILDE
1ebd LATIN SMALL LETTER E WITH TILDE
1ebe LATIN CAPITAL LETTER E WITH CIRCUMFLEX AND ACUTE
1ebf LATIN SMALL LETTER E WITH CIRCUMFLEX AND ACUTE
1ec0 LATIN CAPITAL LETTER E WITH CIRCUMFLEX AND GRAVE
1ec1 LATIN SMALL LETTER E WITH CIRCUMFLEX AND GRAVE
1ec2 LATIN CAPITAL LETTER E WITH CIRCUMFLEX AND HOOK ABOVE
1ec3 LATIN SMALL LETTER E WITH CIRCUMFLEX AND HOOK ABOVE
1ec4 LATIN CAPITAL LETTER E WITH CIRCUMFLEX AND TILDE
1ec5 LATIN SMALL LETTER E WITH CIRCUMFLEX AND TILDE
1ec6 LATIN CAPITAL LETTER E WITH CIRCUMFLEX AND DOT BELOW
1ec7 LATIN SMALL LETTER E WITH CIRCUMFLEX AND DOT BELOW
1ec8 LATIN CAPITAL LETTER I WITH HOOK ABOVE
1ec9 LATIN SMALL LETTER I WITH HOOK ABOVE
1eca LATIN CAPITAL LETTER I WITH DOT BELOW
1ecb LATIN SMALL LETTER I WITH DOT BELOW
1ecc LATIN CAPITAL LETTER O WITH DOT BELOW
1ecd LATIN SMALL LETTER O WITH DOT BELOW
1ece LATIN CAPITAL LETTER O WITH HOOK ABOVE
1ecf LATIN SMALL LETTER O WITH HOOK ABOVE
1ed0 LATIN CAPITAL LETTER O WITH CIRCUMFLEX AND ACUTE
1ed1 LATIN SMALL LETTER O WITH CIRCUMFLEX AND ACUTE
1ed2 LATIN CAPITAL LETTER O WITH CIRCUMFLEX AND GRAVE
1ed3 LATIN SMALL LETTER O WITH CIRCUMFLEX AND GRAVE
1ed4 LATIN CAPITAL LETTER O WITH CIRCUMFLEX AND HOOK ABOVE
1ed5 LATIN SMALL LETTER O WITH CIRCUMFLEX AND HOOK ABOVE
1ed6 LATIN CAPITAL LETTER O WITH CIRCUMFLEX AND TILDE
1ed7 LATIN SMALL LETTER O WITH CIRCUMFLEX AND TILDE
1ed8 LATIN CAPITAL LETTER O WITH CIRCUMFLEX AND DOT BELOW
1ed9 LATIN SMALL LETTER O WITH CIRCUMFLEX AND DOT BELOW
1eda LATIN CAPITAL LETTER O WITH HORN AND ACUTE
1edb LATIN SMALL LETTER O WITH HORN AND ACUTE"

/-- Names, part 15: a number in hexadecimal and a name on each line. -/
def characterNames15 : String :=
  "1edc LATIN CAPITAL LETTER O WITH HORN AND GRAVE
1edd LATIN SMALL LETTER O WITH HORN AND GRAVE
1ede LATIN CAPITAL LETTER O WITH HORN AND HOOK ABOVE
1edf LATIN SMALL LETTER O WITH HORN AND HOOK ABOVE
1ee0 LATIN CAPITAL LETTER O WITH HORN AND TILDE
1ee1 LATIN SMALL LETTER O WITH HORN AND TILDE
1ee2 LATIN CAPITAL LETTER O WITH HORN AND DOT BELOW
1ee3 LATIN SMALL LETTER O WITH HORN AND DOT BELOW
1ee4 LATIN CAPITAL LETTER U WITH DOT BELOW
1ee5 LATIN SMALL LETTER U WITH DOT BELOW
1ee6 LATIN CAPITAL LETTER U WITH HOOK ABOVE
1ee7 LATIN SMALL LETTER U WITH HOOK ABOVE
1ee8 LATIN CAPITAL LETTER U WITH HORN AND ACUTE
1ee9 LATIN SMALL LETTER U WITH HORN AND ACUTE
1eea LATIN CAPITAL LETTER U WITH HORN AND GRAVE
1eeb LATIN SMALL LETTER U WITH HORN AND GRAVE
1eec LATIN CAPITAL LETTER U WITH HORN AND HOOK ABOVE
1eed LATIN SMALL LETTER U WITH HORN AND HOOK ABOVE
1eee LATIN CAPITAL LETTER U WITH HORN AND TILDE
1eef LATIN SMALL LETTER U WITH HORN AND TILDE
1ef0 LATIN CAPITAL LETTER U WITH HORN AND DOT BELOW
1ef1 LATIN SMALL LETTER U WITH HORN AND DOT BELOW
1ef2 LATIN CAPITAL LETTER Y WITH GRAVE
1ef3 LATIN SMALL LETTER Y WITH GRAVE
1ef4 LATIN CAPITAL LETTER Y WITH DOT BELOW
1ef5 LATIN SMALL LETTER Y WITH DOT BELOW
1ef6 LATIN CAPITAL LETTER Y WITH HOOK ABOVE
1ef7 LATIN SMALL LETTER Y WITH HOOK ABOVE
1ef8 LATIN CAPITAL LETTER Y WITH TILDE
1ef9 LATIN SMALL LETTER Y WITH TILDE
1efa LATIN CAPITAL LETTER MIDDLE-WELSH LL
1efb LATIN SMALL LETTER MIDDLE-WELSH LL
1efc LATIN CAPITAL LETTER MIDDLE-WELSH V
1efd LATIN SMALL LETTER MIDDLE-WELSH V
1efe LATIN CAPITAL LETTER Y WITH LOOP
1eff LATIN SMALL LETTER Y WITH LOOP
2000 EN QUAD
2001 EM QUAD
2002 EN SPACE
2003 EM SPACE
2004 THREE-PER-EM SPACE
2005 FOUR-PER-EM SPACE
2006 SIX-PER-EM SPACE
2007 FIGURE SPACE
2008 PUNCTUATION SPACE
2009 THIN SPACE
200a HAIR SPACE
200b ZERO WIDTH SPACE
200c ZERO WIDTH NON-JOINER
200d ZERO WIDTH JOINER
200e LEFT-TO-RIGHT MARK
200f RIGHT-TO-LEFT MARK
2010 HYPHEN
2011 NON-BREAKING HYPHEN
2012 FIGURE DASH
2013 EN DASH
2014 EM DASH
2015 HORIZONTAL BAR
2016 DOUBLE VERTICAL LINE
2017 DOUBLE LOW LINE
2018 LEFT SINGLE QUOTATION MARK
2019 RIGHT SINGLE QUOTATION MARK
201a SINGLE LOW-9 QUOTATION MARK
201b SINGLE HIGH-REVERSED-9 QUOTATION MARK
201c LEFT DOUBLE QUOTATION MARK
201d RIGHT DOUBLE QUOTATION MARK
201e DOUBLE LOW-9 QUOTATION MARK
201f DOUBLE HIGH-REVERSED-9 QUOTATION MARK
2020 DAGGER
2021 DOUBLE DAGGER
2022 BULLET
2023 TRIANGULAR BULLET
2024 ONE DOT LEADER
2025 TWO DOT LEADER
2026 HORIZONTAL ELLIPSIS
2027 HYPHENATION POINT
2028 LINE SEPARATOR
2029 PARAGRAPH SEPARATOR
202a LEFT-TO-RIGHT EMBEDDING
202b RIGHT-TO-LEFT EMBEDDING
202c POP DIRECTIONAL FORMATTING
202d LEFT-TO-RIGHT OVERRIDE
202e RIGHT-TO-LEFT OVERRIDE
202f NARROW NO-BREAK SPACE
2030 PER MILLE SIGN
2031 PER TEN THOUSAND SIGN
2032 PRIME
2033 DOUBLE PRIME
2034 TRIPLE PRIME
2035 REVERSED PRIME
2036 REVERSED DOUBLE PRIME
2037 REVERSED TRIPLE PRIME
2038 CARET
2039 SINGLE LEFT-POINTING ANGLE QUOTATION MARK
203a SINGLE RIGHT-POINTING ANGLE QUOTATION MARK
203b REFERENCE MARK
203c DOUBLE EXCLAMATION MARK
203d INTERROBANG
203e OVERLINE
203f UNDERTIE
2040 CHARACTER TIE
2041 CARET INSERTION POINT
2042 ASTERISM
2043 HYPHEN BULLET
2044 FRACTION SLASH
2045 LEFT SQUARE BRACKET WITH QUILL
2046 RIGHT SQUARE BRACKET WITH QUILL
2047 DOUBLE QUESTION MARK
2048 QUESTION EXCLAMATION MARK
2049 EXCLAMATION QUESTION MARK
204a TIRONIAN SIGN ET
204b REVERSED PILCROW SIGN
204c BLACK LEFTWARDS BULLET
204d BLACK RIGHTWARDS BULLET
204e LOW ASTERISK
204f REVERSED SEMICOLON
2050 CLOSE UP
2051 TWO ASTERISKS ALIGNED VERTICALLY
2052 COMMERCIAL MINUS SIGN
2053 SWUNG DASH
2054 INVERTED UNDERTIE
2055 FLOWER PUNCTUATION MARK
2056 THREE DOT PUNCTUATION
2057 QUADRUPLE PRIME
2058 FOUR DOT PUNCTUATION
2059 FIVE DOT PUNCTUATION
205a TWO DOT PUNCTUATION
205b FOUR DOT MARK
205c DOTTED CROSS
205d TRICOLON
205e VERTICAL FOUR DOTS
205f MEDIUM MATHEMATICAL SPACE
2060 WORD JOINER
2061 FUNCTION APPLICATION
2062 INVISIBLE TIMES
2063 INVISIBLE SEPARATOR
2064 INVISIBLE PLUS"

/-- Names, part 16: a number in hexadecimal and a name on each line. -/
def characterNames16 : String :=
  "2066 LEFT-TO-RIGHT ISOLATE
2067 RIGHT-TO-LEFT ISOLATE
2068 FIRST STRONG ISOLATE
2069 POP DIRECTIONAL ISOLATE
206a INHIBIT SYMMETRIC SWAPPING
206b ACTIVATE SYMMETRIC SWAPPING
206c INHIBIT ARABIC FORM SHAPING
206d ACTIVATE ARABIC FORM SHAPING
206e NATIONAL DIGIT SHAPES
206f NOMINAL DIGIT SHAPES
2070 SUPERSCRIPT ZERO
2071 SUPERSCRIPT LATIN SMALL LETTER I
2074 SUPERSCRIPT FOUR
2075 SUPERSCRIPT FIVE
2076 SUPERSCRIPT SIX
2077 SUPERSCRIPT SEVEN
2078 SUPERSCRIPT EIGHT
2079 SUPERSCRIPT NINE
207a SUPERSCRIPT PLUS SIGN
207b SUPERSCRIPT MINUS
207c SUPERSCRIPT EQUALS SIGN
207d SUPERSCRIPT LEFT PARENTHESIS
207e SUPERSCRIPT RIGHT PARENTHESIS
207f SUPERSCRIPT LATIN SMALL LETTER N
2080 SUBSCRIPT ZERO
2081 SUBSCRIPT ONE
2082 SUBSCRIPT TWO
2083 SUBSCRIPT THREE
2084 SUBSCRIPT FOUR
2085 SUBSCRIPT FIVE
2086 SUBSCRIPT SIX
2087 SUBSCRIPT SEVEN
2088 SUBSCRIPT EIGHT
2089 SUBSCRIPT NINE
208a SUBSCRIPT PLUS SIGN
208b SUBSCRIPT MINUS
208c SUBSCRIPT EQUALS SIGN
208d SUBSCRIPT LEFT PARENTHESIS
208e SUBSCRIPT RIGHT PARENTHESIS
2090 LATIN SUBSCRIPT SMALL LETTER A
2091 LATIN SUBSCRIPT SMALL LETTER E
2092 LATIN SUBSCRIPT SMALL LETTER O
2093 LATIN SUBSCRIPT SMALL LETTER X
2094 LATIN SUBSCRIPT SMALL LETTER SCHWA
2095 LATIN SUBSCRIPT SMALL LETTER H
2096 LATIN SUBSCRIPT SMALL LETTER K
2097 LATIN SUBSCRIPT SMALL LETTER L
2098 LATIN SUBSCRIPT SMALL LETTER M
2099 LATIN SUBSCRIPT SMALL LETTER N
209a LATIN SUBSCRIPT SMALL LETTER P
209b LATIN SUBSCRIPT SMALL LETTER S
209c LATIN SUBSCRIPT SMALL LETTER T
20a0 EURO-CURRENCY SIGN
20a1 COLON SIGN
20a2 CRUZEIRO SIGN
20a3 FRENCH FRANC SIGN
20a4 LIRA SIGN
20a5 MILL SIGN
20a6 NAIRA SIGN
20a7 PESETA SIGN
20a8 RUPEE SIGN
20a9 WON SIGN
20aa NEW SHEQEL SIGN
20ab DONG SIGN
20ac EURO SIGN
20ad KIP SIGN
20ae TUGRIK SIGN
20af DRACHMA SIGN
20b0 GERMAN PENNY SIGN
20b1 PESO SIGN
20b2 GUARANI SIGN
20b3 AUSTRAL SIGN
20b4 HRYVNIA SIGN
20b5 CEDI SIGN
20b6 LIVRE TOURNOIS SIGN
20b7 SPESMILO SIGN
20b8 TENGE SIGN
20b9 INDIAN RUPEE SIGN
20ba TURKISH LIRA SIGN
20bb NORDIC MARK SIGN
20bc MANAT SIGN
20bd RUBLE SIGN
20be LARI SIGN
20bf BITCOIN SIGN
20c0 SOM SIGN
2100 ACCOUNT OF
2101 ADDRESSED TO THE SUBJECT
2102 DOUBLE-STRUCK CAPITAL C
2103 DEGREE CELSIUS
2104 CENTRE LINE SYMBOL
2105 CARE OF
2106 CADA UNA
2107 EULER CONSTANT
2108 SCRUPLE
2109 DEGREE FAHRENHEIT
210a SCRIPT SMALL G
210b SCRIPT CAPITAL H
210c BLACK-LETTER CAPITAL H
210d DOUBLE-STRUCK CAPITAL H
210e PLANCK CONSTANT
210f PLANCK CONSTANT OVER TWO PI
2110 SCRIPT CAPITAL I
2111 BLACK-LETTER CAPITAL I
2112 SCRIPT CAPITAL L
2113 SCRIPT SMALL L
2114 L B BAR SYMBOL
2115 DOUBLE-STRUCK CAPITAL N
2116 NUMERO SIGN
2117 SOUND RECORDING COPYRIGHT
2118 SCRIPT CAPITAL P
2119 DOUBLE-STRUCK CAPITAL P
211a DOUBLE-STRUCK CAPITAL Q
211b SCRIPT CAPITAL R
211c BLACK-LETTER CAPITAL R
211d DOUBLE-STRUCK CAPITAL R
211e PRESCRIPTION TAKE
211f RESPONSE
2120 SERVICE MARK
2121 TELEPHONE SIGN
2122 TRADE MARK SIGN
2123 VERSICLE
2124 DOUBLE-STRUCK CAPITAL Z
2125 OUNCE SIGN
2126 OHM SIGN
2127 INVERTED OHM SIGN
2128 BLACK-LETTER CAPITAL Z
2129 TURNED GREEK SMALL LETTER IOTA
212a KELVIN SIGN
212b ANGSTROM SIGN
212c SCRIPT CAPITAL B
212d BLACK-LETTER CAPITAL C
212e ESTIMATED SYMBOL
212f SCRIPT SMALL E
2130 SCRIPT CAPITAL E
2131 SCRIPT CAPITAL F
2132 TURNED CAPITAL F
2133 SCRIPT CAPITAL M
2134 SCRIPT SMALL O
2135 ALEF SYMBOL
2136 BET SYMBOL
2137 GIMEL SYMBOL
2138 DALET SYMBOL
2139 INFORMATION SOURCE
213a ROTATED CAPITAL Q
213b FACSIMILE SIGN
213c DOUBLE-STRUCK SMALL PI
213d DOUBLE-STRUCK SMALL GAMMA
213e DOUBLE-STRUCK CAPITAL GAMMA
213f DOUBLE-STRUCK CAPITAL PI
2140 DOUBLE-STRUCK N-ARY SUMMATION
2141 TURNED SANS-SERIF CAPITAL G
2142 TURNED SANS-SERIF CAPITAL L
2143 REVERSED SANS-SERIF CAPITAL L
2144 TURNED SANS-SERIF CAPITAL Y
2145 DOUBLE-STRUCK ITALIC CAPITAL D
2146 DOUBLE-STRUCK ITALIC SMALL D
2147 DOUBLE-STRUCK ITALIC SMALL E
2148 DOUBLE-STRUCK ITALIC SMALL I
2149 DOUBLE-STRUCK ITALIC SMALL J
214a PROPERTY LINE
214b TURNED AMPERSAND
214c PER SIGN
214d AKTIESELSKAB
214e TURNED SMALL F
214f SYMBOL FOR SAMARITAN SOURCE"

/-- Names, part 17: a number in hexadecimal and a name on each line. -/
def characterNames17 : String :=
  "2150 VULGAR FRACTION ONE SEVENTH
2151 VULGAR FRACTION ONE NINTH
2152 VULGAR FRACTION ONE TENTH
2153 VULGAR FRACTION ONE THIRD
2154 VULGAR FRACTION TWO THIRDS
2155 VULGAR FRACTION ONE FIFTH
2156 VULGAR FRACTION TWO FIFTHS
2157 VULGAR FRACTION THREE FIFTHS
2158 VULGAR FRACTION FOUR FIFTHS
2159 VULGAR FRACTION ONE SIXTH
215a VULGAR FRACTION FIVE SIXTHS
215b VULGAR FRACTION ONE EIGHTH
215c VULGAR FRACTION THREE EIGHTHS
215d VULGAR FRACTION FIVE EIGHTHS
215e VULGAR FRACTION SEVEN EIGHTHS
215f FRACTION NUMERATOR ONE
2160 ROMAN NUMERAL ONE
2161 ROMAN NUMERAL TWO
2162 ROMAN NUMERAL THREE
2163 ROMAN NUMERAL FOUR
2164 ROMAN NUMERAL FIVE
2165 ROMAN NUMERAL SIX
2166 ROMAN NUMERAL SEVEN
2167 ROMAN NUMERAL EIGHT
2168 ROMAN NUMERAL NINE
2169 ROMAN NUMERAL TEN
216a ROMAN NUMERAL ELEVEN
216b ROMAN NUMERAL TWELVE
216c ROMAN NUMERAL FIFTY
216d ROMAN NUMERAL ONE HUNDRED
216e ROMAN NUMERAL FIVE HUNDRED
216f ROMAN NUMERAL ONE THOUSAND
2170 SMALL ROMAN NUMERAL ONE
2171 SMALL ROMAN NUMERAL TWO
2172 SMALL ROMAN NUMERAL THREE
2173 SMALL ROMAN NUMERAL FOUR
2174 SMALL ROMAN NUMERAL FIVE
2175 SMALL ROMAN NUMERAL SIX
2176 SMALL ROMAN NUMERAL SEVEN
2177 SMALL ROMAN NUMERAL EIGHT
2178 SMALL ROMAN NUMERAL NINE
2179 SMALL ROMAN NUMERAL TEN
217a SMALL ROMAN NUMERAL ELEVEN
217b SMALL ROMAN NUMERAL TWELVE
217c SMALL ROMAN NUMERAL FIFTY
217d SMALL ROMAN NUMERAL ONE HUNDRED
217e SMALL ROMAN NUMERAL FIVE HUNDRED
217f SMALL ROMAN NUMERAL ONE THOUSAND
2180 ROMAN NUMERAL ONE THOUSAND C D
2181 ROMAN NUMERAL FIVE THOUSAND
2182 ROMAN NUMERAL TEN THOUSAND
2183 ROMAN NUMERAL REVERSED ONE HUNDRED
2184 LATIN SMALL LETTER REVERSED C
2185 ROMAN NUMERAL SIX LATE FORM
2186 ROMAN NUMERAL FIFTY EARLY FORM
2187 ROMAN NUMERAL FIFTY THOUSAND
2188 ROMAN NUMERAL ONE HUNDRED THOUSAND
2189 VULGAR FRACTION ZERO THIRDS
218a TURNED DIGIT TWO
218b TURNED DIGIT THREE
2190 LEFTWARDS ARROW
2191 UPWARDS ARROW
2192 RIGHTWARDS ARROW
2193 DOWNWARDS ARROW
2194 LEFT RIGHT ARROW
2195 UP DOWN ARROW
2196 NORTH WEST ARROW
2197 NORTH EAST ARROW
2198 SOUTH EAST ARROW
2199 SOUTH WEST ARROW
219a LEFTWARDS ARROW WITH STROKE
219b RIGHTWARDS ARROW WITH STROKE
219c LEFTWARDS WAVE ARROW
219d RIGHTWARDS WAVE ARROW
219e LEFTWARDS TWO HEADED ARROW
219f UPWARDS TWO HEADED ARROW
21a0 RIGHTWARDS TWO HEADED ARROW
21a1 DOWNWARDS TWO HEADED ARROW
21a2 LEFTWARDS ARROW WITH TAIL
21a3 RIGHTWARDS ARROW WITH TAIL
21a4 LEFTWARDS ARROW FROM BAR
21a5 UPWARDS ARROW FROM BAR
21a6 RIGHTWARDS ARROW FROM BAR
21a7 DOWNWARDS ARROW FROM BAR
21a8 UP DOWN ARROW WITH BASE
21a9 LEFTWARDS ARROW WITH HOOK
21aa RIGHTWARDS ARROW WITH HOOK
21ab LEFTWARDS ARROW WITH LOOP
21ac RIGHTWARDS ARROW WITH LOOP
21ad LEFT RIGHT WAVE ARROW
21ae LEFT RIGHT ARROW WITH STROKE
21af DOWNWARDS ZIGZAG ARROW
21b0 UPWARDS ARROW WITH TIP LEFTWARDS
21b1 UPWARDS ARROW WITH TIP RIGHTWARDS
21b2 DOWNWARDS ARROW WITH TIP LEFTWARDS
21b3 DOWNWARDS ARROW WITH TIP RIGHTWARDS
21b4 RIGHTWARDS ARROW WITH CORNER DOWNWARDS
21b5 DOWNWARDS ARROW WITH CORNER LEFTWARDS
21b6 ANTICLOCKWISE TOP SEMICIRCLE ARROW
21b7 CLOCKWISE TOP SEMICIRCLE ARROW
21b8 NORTH WEST ARROW TO LONG BAR
21b9 LEFTWARDS ARROW TO BAR OVER RIGHTWARDS ARROW TO BAR
21ba ANTICLOCKWISE OPEN CIRCLE ARROW
21bb CLOCKWISE OPEN CIRCLE ARROW
21bc LEFTWARDS HARPOON WITH BARB UPWARDS
21bd LEFTWARDS HARPOON WITH BARB DOWNWARDS
21be UPWARDS HARPOON WITH BARB RIGHTWARDS
21bf UPWARDS HARPOON WITH BARB LEFTWARDS
21c0 RIGHTWARDS HARPOON WITH BARB UPWARDS
21c1 RIGHTWARDS HARPOON WITH BARB DOWNWARDS
21c2 DOWNWARDS HARPOON WITH BARB RIGHTWARDS
21c3 DOWNWARDS HARPOON WITH BARB LEFTWARDS
21c4 RIGHTWARDS ARROW OVER LEFTWARDS ARROW
21c5 UPWARDS ARROW LEFTWARDS OF DOWNWARDS ARROW
21c6 LEFTWARDS ARROW OVER RIGHTWARDS ARROW
21c7 LEFTWARDS PAIRED ARROWS
21c8 UPWARDS PAIRED ARROWS
21c9 RIGHTWARDS PAIRED ARROWS
21ca DOWNWARDS PAIRED ARROWS
21cb LEFTWARDS HARPOON OVER RIGHTWARDS HARPOON
21cc RIGHTWARDS HARPOON OVER LEFTWARDS HARPOON
21cd LEFTWARDS DOUBLE ARROW WITH STROKE
21ce LEFT RIGHT DOUBLE ARROW WITH STROKE"

/-- Names, part 18: a number in hexadecimal and a name on each line. -/
def characterNames18 : String :=
  "21cf RIGHTWARDS DOUBLE ARROW WITH STROKE
21d0 LEFTWARDS DOUBLE ARROW
21d1 UPWARDS DOUBLE ARROW
21d2 RIGHTWARDS DOUBLE ARROW
21d3 DOWNWARDS DOUBLE ARROW
21d4 LEFT RIGHT DOUBLE ARROW
21d5 UP DOWN DOUBLE ARROW
21d6 NORTH WEST DOUBLE ARROW
21d7 NORTH EAST DOUBLE ARROW
21d8 SOUTH EAST DOUBLE ARROW
21d9 SOUTH WEST DOUBLE ARROW
21da LEFTWARDS TRIPLE ARROW
21db RIGHTWARDS TRIPLE ARROW
21dc LEFTWARDS SQUIGGLE ARROW
21dd RIGHTWARDS SQUIGGLE ARROW
21de UPWARDS ARROW WITH DOUBLE STROKE
21df DOWNWARDS ARROW WITH DOUBLE STROKE
21e0 LEFTWARDS DASHED ARROW
21e1 UPWARDS DASHED ARROW
21e2 RIGHTWARDS DASHED ARROW
21e3 DOWNWARDS DASHED ARROW
21e4 LEFTWARDS ARROW TO BAR
21e5 RIGHTWARDS ARROW TO BAR
21e6 LEFTWARDS WHITE ARROW
21e7 UPWARDS WHITE ARROW
21e8 RIGHTWARDS WHITE ARROW
21e9 DOWNWARDS WHITE ARROW
21ea UPWARDS WHITE ARROW FROM BAR
21eb UPWARDS WHITE ARROW ON PEDESTAL
21ec UPWARDS WHITE ARROW ON PEDESTAL WITH HORIZONTAL BAR
21ed UPWARDS WHITE ARROW ON PEDESTAL WITH VERTICAL BAR
21ee UPWARDS WHITE DOUBLE ARROW
21ef UPWARDS WHITE DOUBLE ARROW ON PEDESTAL
21f0 RIGHTWARDS WHITE ARROW FROM WALL
21f1 NORTH WEST ARROW TO CORNER
21f2 SOUTH EAST ARROW TO CORNER
21f3 UP DOWN WHITE ARROW
21f4 RIGHT ARROW WITH SMALL CIRCLE
21f5 DOWNWARDS ARROW LEFTWARDS OF UPWARDS ARROW
21f6 THREE RIGHTWARDS ARROWS
21f7 LEFTWARDS ARROW WITH VERTICAL STROKE
21f8 RIGHTWARDS ARROW WITH VERTICAL STROKE
21f9 LEFT RIGHT ARROW WITH VERTICAL STROKE
21fa LEFTWARDS ARROW WITH DOUBLE VERTICAL STROKE
21fb RIGHTWARDS ARROW WITH DOUBLE VERTICAL STROKE
21fc LEFT RIGHT ARROW WITH DOUBLE VERTICAL STROKE
21fd LEFTWARDS OPEN-HEADED ARROW
21fe RIGHTWARDS OPEN-HEADED ARROW
21ff LEFT RIGHT OPEN-HEADED ARROW
2200 FOR ALL
2201 COMPLEMENT
2202 PARTIAL DIFFERENTIAL
2203 THERE EXISTS
2204 THERE DOES NOT EXIST
2205 EMPTY SET
2206 INCREMENT
2207 NABLA
2208 ELEMENT OF
2209 NOT AN ELEMENT OF
220a SMALL ELEMENT OF
220b CONTAINS AS MEMBER
220c DOES NOT CONTAIN AS MEMBER
220d SMALL CONTAINS AS MEMBER
220e END OF PROOF
220f N-ARY PRODUCT
2210 N-ARY COPRODUCT
2211 N-ARY SUMMATION
2212 MINUS SIGN
2213 MINUS-OR-PLUS SIGN
2214 DOT PLUS
2215 DIVISION SLASH
2216 SET MINUS
2217 ASTERISK OPERATOR
2218 RING OPERATOR
2219 BULLET OPERATOR
221a SQUARE ROOT
221b CUBE ROOT
221c FOURTH ROOT
221d PROPORTIONAL TO
221e INFINITY
221f RIGHT ANGLE
2220 ANGLE
2221 MEASURED ANGLE
2222 SPHERICAL ANGLE
2223 DIVIDES
2224 DOES NOT DIVIDE
2225 PARALLEL TO
2226 NOT PARALLEL TO
2227 LOGICAL AND
2228 LOGICAL OR
2229 INTERSECTION
222a UNION
222b INTEGRAL
222c DOUBLE INTEGRAL
222d TRIPLE INTEGRAL
222e CONTOUR INTEGRAL
222f SURFACE INTEGRAL
2230 VOLUME INTEGRAL
2231 CLOCKWISE INTEGRAL
2232 CLOCKWISE CONTOUR INTEGRAL
2233 ANTICLOCKWISE CONTOUR INTEGRAL
2234 THEREFORE
2235 BECAUSE
2236 RATIO
2237 PROPORTION
2238 DOT MINUS
2239 EXCESS
223a GEOMETRIC PROPORTION
223b HOMOTHETIC
223c TILDE OPERATOR
223d REVERSED TILDE
223e INVERTED LAZY S
223f SINE WAVE
2240 WREATH PRODUCT
2241 NOT TILDE
2242 MINUS TILDE
2243 ASYMPTOTICALLY EQUAL TO
2244 NOT ASYMPTOTICALLY EQUAL TO
2245 APPROXIMATELY EQUAL TO
2246 APPROXIMATELY BUT NOT ACTUALLY EQUAL TO
2247 NEITHER APPROXIMATELY NOR ACTUALLY EQUAL TO
2248 ALMOST EQUAL TO
2249 NOT ALMOST EQUAL TO
224a ALMOST EQUAL OR EQUAL TO
224b TRIPLE TILDE
224c ALL EQUAL TO
224d EQUIVALENT TO
224e GEOMETRICALLY EQUIVALENT TO
224f DIFFERENCE BETWEEN
2250 APPROACHES THE LIMIT
2251 GEOMETRICALLY EQUAL TO
2252 APPROXIMATELY EQUAL TO OR THE IMAGE OF
2253 IMAGE OF OR APPROXIMATELY EQUAL TO
2254 COLON EQUALS
2255 EQUALS COLON
2256 RING IN EQUAL TO
2257 RING EQUAL TO
2258 CORRESPONDS TO
2259 ESTIMATES
225a EQUIANGULAR TO
225b STAR EQUALS
225c DELTA EQUAL TO
225d EQUAL TO BY DEFINITION
225e MEASURED BY
225f QUESTIONED EQUAL TO
2260 NOT EQUAL TO
2261 IDENTICAL TO
2262 NOT IDENTICAL TO
2263 STRICTLY EQUIVALENT TO
2264 LESS-THAN OR EQUAL TO
2265 GREATER-THAN OR EQUAL TO
2266 LESS-THAN OVER EQUAL TO
2267 GREATER-THAN OVER EQUAL TO
2268 LESS-THAN BUT NOT EQUAL TO
2269 GREATER-THAN BUT NOT EQUAL TO
226a MUCH LESS-THAN"

/-- Names, part 19: a number in hexadecimal and a name on each line. -/
def characterNames19 : String :=
  "226b MUCH GREATER-THAN
226c BETWEEN
226d NOT EQUIVALENT TO
226e NOT LESS-THAN
226f NOT GREATER-THAN
2270 NEITHER LESS-THAN NOR EQUAL TO
2271 NEITHER GREATER-THAN NOR EQUAL TO
2272 LESS-THAN OR EQUIVALENT TO
2273 GREATER-THAN OR EQUIVALENT TO
2274 NEITHER LESS-THAN NOR EQUIVALENT TO
2275 NEITHER GREATER-THAN NOR EQUIVALENT TO
2276 LESS-THAN OR GREATER-THAN
2277 GREATER-THAN OR LESS-THAN
2278 NEITHER LESS-THAN NOR GREATER-THAN
2279 NEITHER GREATER-THAN NOR LESS-THAN
227a PRECEDES
227b SUCCEEDS
227c PRECEDES OR EQUAL TO
227d SUCCEEDS OR EQUAL TO
227e PRECEDES OR EQUIVALENT TO
227f SUCCEEDS OR EQUIVALENT TO
2280 DOES NOT PRECEDE
2281 DOES NOT SUCCEED
2282 SUBSET OF
2283 SUPERSET OF
2284 NOT A SUBSET OF
2285 NOT A SUPERSET OF
2286 SUBSET OF OR EQUAL TO
2287 SUPERSET OF OR EQUAL TO
2288 NEITHER A SUBSET OF NOR EQUAL TO
2289 NEITHER A SUPERSET OF NOR EQUAL TO
228a SUBSET OF WITH NOT EQUAL TO
228b SUPERSET OF WITH NOT EQUAL TO
228c MULTISET
228d MULTISET MULTIPLICATION
228e MULTISET UNION
228f SQUARE IMAGE OF
2290 SQUARE ORIGINAL OF
2291 SQUARE IMAGE OF OR EQUAL TO
2292 SQUARE ORIGINAL OF OR EQUAL TO
2293 SQUARE CAP
2294 SQUARE CUP
2295 CIRCLED PLUS
2296 CIRCLED MINUS
2297 CIRCLED TIMES
2298 CIRCLED DIVISION SLASH
2299 CIRCLED DOT OPERATOR
229a CIRCLED RING OPERATOR
229b CIRCLED ASTERISK OPERATOR
229c CIRCLED EQUALS
229d CIRCLED DASH
229e SQUARED PLUS
229f SQUARED MINUS
22a0 SQUARED TIMES
22a1 SQUARED DOT OPERATOR
22a2 RIGHT TACK
22a3 LEFT TACK
22a4 DOWN TACK
22a5 UP TACK
22a6 ASSERTION
22a7 MODELS
22a8 TRUE
22a9 FORCES
22aa TRIPLE VERTICAL BAR RIGHT TURNSTILE
22ab DOUBLE VERTICAL BAR DOUBLE RIGHT TURNSTILE
22ac DOES NOT PROVE
22ad NOT TRUE
22ae DOES NOT FORCE
22af NEGATED DOUBLE VERTICAL BAR DOUBLE RIGHT TURNSTILE
22b0 PRECEDES UNDER RELATION
22b1 SUCCEEDS UNDER RELATION
22b2 NORMAL SUBGROUP OF
22b3 CONTAINS AS NORMAL SUBGROUP
22b4 NORMAL SUBGROUP OF OR EQUAL TO
22b5 CONTAINS AS NORMAL SUBGROUP OR EQUAL TO
22b6 ORIGINAL OF
22b7 IMAGE OF
22b8 MULTIMAP
22b9 HERMITIAN CONJUGATE MATRIX
22ba INTERCALATE
22bb XOR
22bc NAND
22bd NOR
22be RIGHT ANGLE WITH ARC
22bf RIGHT TRIANGLE
22c0 N-ARY LOGICAL AND
22c1 N-ARY LOGICAL OR
22c2 N-ARY INTERSECTION
22c3 N-ARY UNION
22c4 DIAMOND OPERATOR
22c5 DOT OPERATOR
22c6 STAR OPERATOR
22c7 DIVISION TIMES
22c8 BOWTIE
22c9 LEFT NORMAL FACTOR SEMIDIRECT PRODUCT
22ca RIGHT NORMAL FACTOR SEMIDIRECT PRODUCT
22cb LEFT SEMIDIRECT PRODUCT
22cc RIGHT SEMIDIRECT PRODUCT
22cd REVERSED TILDE EQUALS
22ce CURLY LOGICAL OR
22cf CURLY LOGICAL AND
22d0 DOUBLE SUBSET
22d1 DOUBLE SUPERSET
22d2 DOUBLE INTERSECTION
22d3 DOUBLE UNION
22d4 PITCHFORK
22d5 EQUAL AND PARALLEL TO
22d6 LESS-THAN WITH DOT
22d7 GREATER-THAN WITH DOT
22d8 VERY MUCH LESS-THAN
22d9 VERY MUCH GREATER-THAN
22da LESS-THAN EQUAL TO OR GREATER-THAN
22db GREATER-THAN EQUAL TO OR LESS-THAN
22dc EQUAL TO OR LESS-THAN
22dd EQUAL TO OR GREATER-THAN
22de EQUAL TO OR PRECEDES
22df EQUAL TO OR SUCCEEDS
22e0 DOES NOT PRECEDE OR EQUAL
22e1 DOES NOT SUCCEED OR EQUAL
22e2 NOT SQUARE IMAGE OF OR EQUAL TO
22e3 NOT SQUARE ORIGINAL OF OR EQUAL TO
22e4 SQUARE IMAGE OF OR NOT EQUAL TO
22e5 SQUARE ORIGINAL OF OR NOT EQUAL TO
22e6 LESS-THAN BUT NOT EQUIVALENT TO
22e7 GREATER-THAN BUT NOT EQUIVALENT TO
22e8 PRECEDES BUT NOT EQUIVALENT TO
22e9 SUCCEEDS BUT NOT EQUIVALENT TO
22ea NOT NORMAL SUBGROUP OF
22eb DOES NOT CONTAIN AS NORMAL SUBGROUP
22ec NOT NORMAL SUBGROUP OF OR EQUAL TO
22ed DOES NOT CONTAIN AS NORMAL SUBGROUP OR EQUAL
22ee VERTICAL ELLIPSIS
22ef MIDLINE HORIZONTAL ELLIPSIS
22f0 UP RIGHT DIAGONAL ELLIPSIS
22f1 DOWN RIGHT DIAGONAL ELLIPSIS
22f2 ELEMENT OF WITH LONG HORIZONTAL STROKE
22f3 ELEMENT OF WITH VERTICAL BAR AT END OF HORIZONTAL STROKE
22f4 SMALL ELEMENT OF WITH VERTICAL BAR AT END OF HORIZONTAL STROKE
22f5 ELEMENT OF WITH DOT ABOVE
22f6 ELEMENT OF WITH OVERBAR
22f7 SMALL ELEMENT OF WITH OVERBAR
22f8 ELEMENT OF WITH UNDERBAR
22f9 ELEMENT OF WITH TWO HORIZONTAL STROKES
22fa CONTAINS WITH LONG HORIZONTAL STROKE"

/-- Names, part 20: a number in hexadecimal and a name on each line. -/
def characterNames20 : String :=
  "22fb CONTAINS WITH VERTICAL BAR AT END OF HORIZONTAL STROKE
22fc SMALL CONTAINS WITH VERTICAL BAR AT END OF HORIZONTAL STROKE
22fd CONTAINS WITH OVERBAR
22fe SMALL CONTAINS WITH OVERBAR
22ff Z NOTATION BAG MEMBERSHIP
2300 DIAMETER SIGN
2301 ELECTRIC ARROW
2302 HOUSE
2303 UP ARROWHEAD
2304 DOWN ARROWHEAD
2305 PROJECTIVE
2306 PERSPECTIVE
2307 WAVY LINE
2308 LEFT CEILING
2309 RIGHT CEILING
230a LEFT FLOOR
230b RIGHT FLOOR
230c BOTTOM RIGHT CROP
230d BOTTOM LEFT CROP
230e TOP RIGHT CROP
230f TOP LEFT CROP
2310 REVERSED NOT SIGN
2311 SQUARE LOZENGE
2312 ARC
2313 SEGMENT
2314 SECTOR
2315 TELEPHONE RECORDER
2316 POSITION INDICATOR
2317 VIEWDATA SQUARE
2318 PLACE OF INTEREST SIGN
2319 TURNED NOT SIGN
231a WATCH
231b HOURGLASS
231c TOP LEFT CORNER
231d TOP RIGHT CORNER
231e BOTTOM LEFT CORNER
231f BOTTOM RIGHT CORNER
2320 TOP HALF INTEGRAL
2321 BOTTOM HALF INTEGRAL
2322 FROWN
2323 SMILE
2324 UP ARROWHEAD BETWEEN TWO HORIZONTAL BARS
2325 OPTION KEY
2326 ERASE TO THE RIGHT
2327 X IN A RECTANGLE BOX
2328 KEYBOARD
2329 LEFT-POINTING ANGLE BRACKET
232a RIGHT-POINTING ANGLE BRACKET
232b ERASE TO THE LEFT
232c BENZENE RING
232d CYLINDRICITY
232e ALL AROUND-PROFILE
232f SYMMETRY
2330 TOTAL RUNOUT
2331 DIMENSION ORIGIN
2332 CONICAL TAPER
2333 SLOPE
2334 COUNTERBORE
2335 COUNTERSINK
2336 APL FUNCTIONAL SYMBOL I-BEAM
2337 APL FUNCTIONAL SYMBOL SQUISH QUAD
2338 APL FUNCTIONAL SYMBOL QUAD EQUAL
2339 APL FUNCTIONAL SYMBOL QUAD DIVIDE
233a APL FUNCTIONAL SYMBOL QUAD DIAMOND
233b APL FUNCTIONAL SYMBOL QUAD JOT
233c APL FUNCTIONAL SYMBOL QUAD CIRCLE
233d APL FUNCTIONAL SYMBOL CIRCLE STILE
233e APL FUNCTIONAL SYMBOL CIRCLE JOT
233f APL FUNCTIONAL SYMBOL SLASH BAR
2340 APL FUNCTIONAL SYMBOL BACKSLASH BAR
2341 APL FUNCTIONAL SYMBOL QUAD SLASH
2342 APL FUNCTIONAL SYMBOL QUAD BACKSLASH
2343 APL FUNCTIONAL SYMBOL QUAD LESS-THAN
2344 APL FUNCTIONAL SYMBOL QUAD GREATER-THAN
2345 APL FUNCTIONAL SYMBOL LEFTWARDS VANE
2346 APL FUNCTIONAL SYMBOL RIGHTWARDS VANE
2347 APL FUNCTIONAL SYMBOL QUAD LEFTWARDS ARROW
2348 APL FUNCTIONAL SYMBOL QUAD RIGHTWARDS ARROW
2349 APL FUNCTIONAL SYMBOL CIRCLE BACKSLASH
234a APL FUNCTIONAL SYMBOL DOWN TACK UNDERBAR
234b APL FUNCTIONAL SYMBOL DELTA STILE
234c APL FUNCTIONAL SYMBOL QUAD DOWN CARET
234d APL FUNCTIONAL SYMBOL QUAD DELTA
234e APL FUNCTIONAL SYMBOL DOWN TACK JOT
234f APL FUNCTIONAL SYMBOL UPWARDS VANE
2350 APL FUNCTIONAL SYMBOL QUAD UPWARDS ARROW
2351 APL FUNCTIONAL SYMBOL UP TACK OVERBAR
2352 APL FUNCTIONAL SYMBOL DEL STILE
2353 APL FUNCTIONAL SYMBOL QUAD UP CARET
2354 APL FUNCTIONAL SYMBOL QUAD DEL
2355 APL FUNCTIONAL SYMBOL UP TACK JOT
2356 APL FUNCTIONAL SYMBOL DOWNWARDS VANE
2357 APL FUNCTIONAL SYMBOL QUAD DOWNWARDS ARROW
2358 APL FUNCTIONAL SYMBOL QUOTE UNDERBAR
2359 APL FUNCTIONAL SYMBOL DELTA UNDERBAR
235a APL FUNCTIONAL SYMBOL DIAMOND UNDERBAR
235b APL FUNCTIONAL SYMBOL JOT UNDERBAR
235c APL FUNCTIONAL SYMBOL CIRCLE UNDERBAR
235d APL FUNCTIONAL SYMBOL UP SHOE JOT
235e APL FUNCTIONAL SYMBOL QUOTE QUAD
235f APL FUNCTIONAL SYMBOL CIRCLE STAR
2360 APL FUNCTIONAL SYMBOL QUAD COLON
2361 APL FUNCTIONAL SYMBOL UP TACK DIAERESIS
2362 APL FUNCTIONAL SYMBOL DEL DIAERESIS
2363 APL FUNCTIONAL SYMBOL STAR DIAERESIS
2364 APL FUNCTIONAL SYMBOL JOT DIAERESIS
2365 APL FUNCTIONAL SYMBOL CIRCLE DIAERESIS
2366 APL FUNCTIONAL SYMBOL DOWN SHOE STILE
2367 APL FUNCTIONAL SYMBOL LEFT SHOE STILE
2368 APL FUNCTIONAL SYMBOL TILDE DIAERESIS
2369 APL FUNCTIONAL SYMBOL GREATER-THAN DIAERESIS
236a APL FUNCTIONAL SYMBOL COMMA BAR
236b APL FUNCTIONAL SYMBOL DEL TILDE
236c APL FUNCTIONAL SYMBOL ZILDE
236d APL FUNCTIONAL SYMBOL STILE TILDE
236e APL FUNCTIONAL SYMBOL SEMICOLON UNDERBAR
236f APL FUNCTIONAL SYMBOL QUAD NOT EQUAL
2370 APL FUNCTIONAL SYMBOL QUAD QUESTION
2371 APL FUNCTIONAL SYMBOL DOWN CARET TILDE
2372 APL FUNCTIONAL SYMBOL UP CARET TILDE
2373 APL FUNCTIONAL SYMBOL IOTA
2374 APL FUNCTIONAL SYMBOL RHO
2375 APL FUNCTIONAL SYMBOL OMEGA
2376 APL FUNCTIONAL SYMBOL ALPHA UNDERBAR
2377 APL FUNCTIONAL SYMBOL EPSILON UNDERBAR"

/-- Names, part 21: a number in hexadecimal and a name on each line. -/
def characterNames21 : String :=
  "2378 APL FUNCTIONAL SYMBOL IOTA UNDERBAR
2379 APL FUNCTIONAL SYMBOL OMEGA UNDERBAR
237a APL FUNCTIONAL SYMBOL ALPHA
237b NOT CHECK MARK
237c RIGHT ANGLE WITH DOWNWARDS ZIGZAG ARROW
237d SHOULDERED OPEN BOX
237e BELL SYMBOL
237f VERTICAL LINE WITH MIDDLE DOT
2380 INSERTION SYMBOL
2381 CONTINUOUS UNDERLINE SYMBOL
2382 DISCONTINUOUS UNDERLINE SYMBOL
2383 EMPHASIS SYMBOL
2384 COMPOSITION SYMBOL
2385 WHITE SQUARE WITH CENTRE VERTICAL LINE
2386 ENTER SYMBOL
2387 ALTERNATIVE KEY SYMBOL
2388 HELM SYMBOL
2389 CIRCLED HORIZONTAL BAR WITH NOTCH
238a CIRCLED TRIANGLE DOWN
238b BROKEN CIRCLE WITH NORTHWEST ARROW
238c UNDO SYMBOL
238d MONOSTABLE SYMBOL
238e HYSTERESIS SYMBOL
238f OPEN-CIRCUIT-OUTPUT H-TYPE SYMBOL
2390 OPEN-CIRCUIT-OUTPUT L-TYPE SYMBOL
2391 PASSIVE-PULL-DOWN-OUTPUT SYMBOL
2392 PASSIVE-PULL-UP-OUTPUT SYMBOL
2393 DIRECT CURRENT SYMBOL FORM TWO
2394 SOFTWARE-FUNCTION SYMBOL
2395 APL FUNCTIONAL SYMBOL QUAD
2396 DECIMAL SEPARATOR KEY SYMBOL
2397 PREVIOUS PAGE
2398 NEXT PAGE
2399 PRINT SCREEN SYMBOL
239a CLEAR SCREEN SYMBOL
239b LEFT PARENTHESIS UPPER HOOK
239c LEFT PARENTHESIS EXTENSION
239d LEFT PARENTHESIS LOWER HOOK
239e RIGHT PARENTHESIS UPPER HOOK
239f RIGHT PARENTHESIS EXTENSION
23a0 RIGHT PARENTHESIS LOWER HOOK
23a1 LEFT SQUARE BRACKET UPPER CORNER
23a2 LEFT SQUARE BRACKET EXTENSION
23a3 LEFT SQUARE BRACKET LOWER CORNER
23a4 RIGHT SQUARE BRACKET UPPER CORNER
23a5 RIGHT SQUARE BRACKET EXTENSION
23a6 RIGHT SQUARE BRACKET LOWER CORNER
23a7 LEFT CURLY BRACKET UPPER HOOK
23a8 LEFT CURLY BRACKET MIDDLE PIECE
23a9 LEFT CURLY BRACKET LOWER HOOK
23aa CURLY BRACKET EXTENSION
23ab RIGHT CURLY BRACKET UPPER HOOK
23ac RIGHT CURLY BRACKET MIDDLE PIECE
23ad RIGHT CURLY BRACKET LOWER HOOK
23ae INTEGRAL EXTENSION
23af HORIZONTAL LINE EXTENSION
23b0 UPPER LEFT OR LOWER RIGHT CURLY BRACKET SECTION
23b1 UPPER RIGHT OR LOWER LEFT CURLY BRACKET SECTION
23b2 SUMMATION TOP
23b3 SUMMATION BOTTOM
23b4 TOP SQUARE BRACKET
23b5 BOTTOM SQUARE BRACKET
23b6 BOTTOM SQUARE BRACKET OVER TOP SQUARE BRACKET
23b7 RADICAL SYMBOL BOTTOM
23b8 LEFT VERTICAL BOX LINE
23b9 RIGHT VERTICAL BOX LINE
23ba HORIZONTAL SCAN LINE-1
23bb HORIZONTAL SCAN LINE-3
23bc HORIZONTAL SCAN LINE-7
23bd HORIZONTAL SCAN LINE-9
23be DENTISTRY SYMBOL LIGHT VERTICAL AND TOP RIGHT
23bf DENTISTRY SYMBOL LIGHT VERTICAL AND BOTTOM RIGHT
23c0 DENTISTRY SYMBOL LIGHT VERTICAL WITH CIRCLE
23c1 DENTISTRY SYMBOL LIGHT DOWN AND HORIZONTAL WITH CIRCLE
23c2 DENTISTRY SYMBOL LIGHT UP AND HORIZONTAL WITH CIRCLE
23c3 DENTISTRY SYMBOL LIGHT VERTICAL WITH TRIANGLE
23c4 DENTISTRY SYMBOL LIGHT DOWN AND HORIZONTAL WITH TRIANGLE
23c5 DENTISTRY SYMBOL LIGHT UP AND HORIZONTAL WITH TRIANGLE
23c6 DENTISTRY SYMBOL LIGHT VERTICAL AND WAVE
23c7 DENTISTRY SYMBOL LIGHT DOWN AND HORIZONTAL WITH WAVE
23c8 DENTISTRY SYMBOL LIGHT UP AND HORIZONTAL WITH WAVE
23c9 DENTISTRY SYMBOL LIGHT DOWN AND HORIZONTAL
23ca DENTISTRY SYMBOL LIGHT UP AND HORIZONTAL
23cb DENTISTRY SYMBOL LIGHT VERTICAL AND TOP LEFT
23cc DENTISTRY SYMBOL LIGHT VERTICAL AND BOTTOM LEFT
23cd SQUARE FOOT
23ce RETURN SYMBOL
23cf EJECT SYMBOL
23d0 VERTICAL LINE EXTENSION
23d1 METRICAL BREVE
23d2 METRICAL LONG OVER SHORT
23d3 METRICAL SHORT OVER LONG
23d4 METRICAL LONG OVER TWO SHORTS
23d5 METRICAL TWO SHORTS OVER LONG
23d6 METRICAL TWO SHORTS JOINED
23d7 METRICAL TRISEME
23d8 METRICAL TETRASEME
23d9 METRICAL PENTASEME
23da EARTH GROUND
23db FUSE
23dc TOP PARENTHESIS
23dd BOTTOM PARENTHESIS
23de TOP CURLY BRACKET
23df BOTTOM CURLY BRACKET
23e0 TOP TORTOISE SHELL BRACKET
23e1 BOTTOM TORTOISE SHELL BRACKET
23e2 WHITE TRAPEZIUM
23e3 BENZENE RING WITH CIRCLE
23e4 STRAIGHTNESS
23e5 FLATNESS
23e6 AC CURRENT
23e7 ELECTRICAL INTERSECTION
23e8 DECIMAL EXPONENT SYMBOL
23e9 BLACK RIGHT-POINTING DOUBLE TRIANGLE
23ea BLACK LEFT-POINTING DOUBLE TRIANGLE
23eb BLACK UP-POINTING DOUBLE TRIANGLE
23ec BLACK DOWN-POINTING DOUBLE TRIANGLE
23ed BLACK RIGHT-POINTING DOUBLE TRIANGLE WITH VERTICAL BAR
23ee BLACK LEFT-POINTING DOUBLE TRIANGLE WITH VERTICAL BAR"

/-- Names, part 22: a number in hexadecimal and a name on each line. -/
def characterNames22 : String :=
  "23ef BLACK RIGHT-POINTING TRIANGLE WITH DOUBLE VERTICAL BAR
23f0 ALARM CLOCK
23f1 STOPWATCH
23f2 TIMER CLOCK
23f3 HOURGLASS WITH FLOWING SAND
23f4 BLACK MEDIUM LEFT-POINTING TRIANGLE
23f5 BLACK MEDIUM RIGHT-POINTING TRIANGLE
23f6 BLACK MEDIUM UP-POINTING TRIANGLE
23f7 BLACK MEDIUM DOWN-POINTING TRIANGLE
23f8 DOUBLE VERTICAL BAR
23f9 BLACK SQUARE FOR STOP
23fa BLACK CIRCLE FOR RECORD
23fb POWER SYMBOL
23fc POWER ON-OFF SYMBOL
23fd POWER ON SYMBOL
23fe POWER SLEEP SYMBOL
23ff OBSERVER EYE SYMBOL
2460 CIRCLED DIGIT ONE
2461 CIRCLED DIGIT TWO
2462 CIRCLED DIGIT THREE
2463 CIRCLED DIGIT FOUR
2464 CIRCLED DIGIT FIVE
2465 CIRCLED DIGIT SIX
2466 CIRCLED DIGIT SEVEN
2467 CIRCLED DIGIT EIGHT
2468 CIRCLED DIGIT NINE
2469 CIRCLED NUMBER TEN
246a CIRCLED NUMBER ELEVEN
246b CIRCLED NUMBER TWELVE
246c CIRCLED NUMBER THIRTEEN
246d CIRCLED NUMBER FOURTEEN
246e CIRCLED NUMBER FIFTEEN
246f CIRCLED NUMBER SIXTEEN
2470 CIRCLED NUMBER SEVENTEEN
2471 CIRCLED NUMBER EIGHTEEN
2472 CIRCLED NUMBER NINETEEN
2473 CIRCLED NUMBER TWENTY
2474 PARENTHESIZED DIGIT ONE
2475 PARENTHESIZED DIGIT TWO
2476 PARENTHESIZED DIGIT THREE
2477 PARENTHESIZED DIGIT FOUR
2478 PARENTHESIZED DIGIT FIVE
2479 PARENTHESIZED DIGIT SIX
247a PARENTHESIZED DIGIT SEVEN
247b PARENTHESIZED DIGIT EIGHT
247c PARENTHESIZED DIGIT NINE
247d PARENTHESIZED NUMBER TEN
247e PARENTHESIZED NUMBER ELEVEN
247f PARENTHESIZED NUMBER TWELVE
2480 PARENTHESIZED NUMBER THIRTEEN
2481 PARENTHESIZED NUMBER FOURTEEN
2482 PARENTHESIZED NUMBER FIFTEEN
2483 PARENTHESIZED NUMBER SIXTEEN
2484 PARENTHESIZED NUMBER SEVENTEEN
2485 PARENTHESIZED NUMBER EIGHTEEN
2486 PARENTHESIZED NUMBER NINETEEN
2487 PARENTHESIZED NUMBER TWENTY
2488 DIGIT ONE FULL STOP
2489 DIGIT TWO FULL STOP
248a DIGIT THREE FULL STOP
248b DIGIT FOUR FULL STOP
248c DIGIT FIVE FULL STOP
248d DIGIT SIX FULL STOP
248e DIGIT SEVEN FULL STOP
248f DIGIT EIGHT FULL STOP
2490 DIGIT NINE FULL STOP
2491 NUMBER TEN FULL STOP
2492 NUMBER ELEVEN FULL STOP
2493 NUMBER TWELVE FULL STOP
2494 NUMBER THIRTEEN FULL STOP
2495 NUMBER FOURTEEN FULL STOP
2496 NUMBER FIFTEEN FULL STOP
2497 NUMBER SIXTEEN FULL STOP
2498 NUMBER SEVENTEEN FULL STOP
2499 NUMBER EIGHTEEN FULL STOP
249a NUMBER NINETEEN FULL STOP
249b NUMBER TWENTY FULL STOP
249c PARENTHESIZED LATIN SMALL LETTER A
249d PARENTHESIZED LATIN SMALL LETTER B
249e PARENTHESIZED LATIN SMALL LETTER C
249f PARENTHESIZED LATIN SMALL LETTER D
24a0 PARENTHESIZED LATIN SMALL LETTER E
24a1 PARENTHESIZED LATIN SMALL LETTER F
24a2 PARENTHESIZED LATIN SMALL LETTER G
24a3 PARENTHESIZED LATIN SMALL LETTER H
24a4 PARENTHESIZED LATIN SMALL LETTER I
24a5 PARENTHESIZED LATIN SMALL LETTER J
24a6 PARENTHESIZED LATIN SMALL LETTER K
24a7 PARENTHESIZED LATIN SMALL LETTER L
24a8 PARENTHESIZED LATIN SMALL LETTER M
24a9 PARENTHESIZED LATIN SMALL LETTER N
24aa PARENTHESIZED LATIN SMALL LETTER O
24ab PARENTHESIZED LATIN SMALL LETTER P
24ac PARENTHESIZED LATIN SMALL LETTER Q
24ad PARENTHESIZED LATIN SMALL LETTER R
24ae PARENTHESIZED LATIN SMALL LETTER S
24af PARENTHESIZED LATIN SMALL LETTER T
24b0 PARENTHESIZED LATIN SMALL LETTER U
24b1 PARENTHESIZED LATIN SMALL LETTER V
24b2 PARENTHESIZED LATIN SMALL LETTER W
24b3 PARENTHESIZED LATIN SMALL LETTER X
24b4 PARENTHESIZED LATIN SMALL LETTER Y
24b5 PARENTHESIZED LATIN SMALL LETTER Z
24b6 CIRCLED LATIN CAPITAL LETTER A
24b7 CIRCLED LATIN CAPITAL LETTER B
24b8 CIRCLED LATIN CAPITAL LETTER C
24b9 CIRCLED LATIN CAPITAL LETTER D
24ba CIRCLED LATIN CAPITAL LETTER E
24bb CIRCLED LATIN CAPITAL LETTER F
24bc CIRCLED LATIN CAPITAL LETTER G
24bd CIRCLED LATIN CAPITAL LETTER H
24be CIRCLED LATIN CAPITAL LETTER I
24bf CIRCLED LATIN CAPITAL LETTER J
24c0 CIRCLED LATIN CAPITAL LETTER K
24c1 CIRCLED LATIN CAPITAL LETTER L
24c2 CIRCLED LATIN CAPITAL LETTER M
24c3 CIRCLED LATIN CAPITAL LETTER N
24c4 CIRCLED LATIN CAPITAL LETTER O
24c5 CIRCLED LATIN CAPITAL LETTER P
24c6 CIRCLED LATIN CAPITAL LETTER Q
24c7 CIRCLED LATIN CAPITAL LETTER R
24c8 CIRCLED LATIN CAPITAL LETTER S
24c9 CIRCLED LATIN CAPITAL LETTER T"

/-- Names, part 23: a number in hexadecimal and a name on each line. -/
def characterNames23 : String :=
  "24ca CIRCLED LATIN CAPITAL LETTER U
24cb CIRCLED LATIN CAPITAL LETTER V
24cc CIRCLED LATIN CAPITAL LETTER W
24cd CIRCLED LATIN CAPITAL LETTER X
24ce CIRCLED LATIN CAPITAL LETTER Y
24cf CIRCLED LATIN CAPITAL LETTER Z
24d0 CIRCLED LATIN SMALL LETTER A
24d1 CIRCLED LATIN SMALL LETTER B
24d2 CIRCLED LATIN SMALL LETTER C
24d3 CIRCLED LATIN SMALL LETTER D
24d4 CIRCLED LATIN SMALL LETTER E
24d5 CIRCLED LATIN SMALL LETTER F
24d6 CIRCLED LATIN SMALL LETTER G
24d7 CIRCLED LATIN SMALL LETTER H
24d8 CIRCLED LATIN SMALL LETTER I
24d9 CIRCLED LATIN SMALL LETTER J
24da CIRCLED LATIN SMALL LETTER K
24db CIRCLED LATIN SMALL LETTER L
24dc CIRCLED LATIN SMALL LETTER M
24dd CIRCLED LATIN SMALL LETTER N
24de CIRCLED LATIN SMALL LETTER O
24df CIRCLED LATIN SMALL LETTER P
24e0 CIRCLED LATIN SMALL LETTER Q
24e1 CIRCLED LATIN SMALL LETTER R
24e2 CIRCLED LATIN SMALL LETTER S
24e3 CIRCLED LATIN SMALL LETTER T
24e4 CIRCLED LATIN SMALL LETTER U
24e5 CIRCLED LATIN SMALL LETTER V
24e6 CIRCLED LATIN SMALL LETTER W
24e7 CIRCLED LATIN SMALL LETTER X
24e8 CIRCLED LATIN SMALL LETTER Y
24e9 CIRCLED LATIN SMALL LETTER Z
24ea CIRCLED DIGIT ZERO
24eb NEGATIVE CIRCLED NUMBER ELEVEN
24ec NEGATIVE CIRCLED NUMBER TWELVE
24ed NEGATIVE CIRCLED NUMBER THIRTEEN
24ee NEGATIVE CIRCLED NUMBER FOURTEEN
24ef NEGATIVE CIRCLED NUMBER FIFTEEN
24f0 NEGATIVE CIRCLED NUMBER SIXTEEN
24f1 NEGATIVE CIRCLED NUMBER SEVENTEEN
24f2 NEGATIVE CIRCLED NUMBER EIGHTEEN
24f3 NEGATIVE CIRCLED NUMBER NINETEEN
24f4 NEGATIVE CIRCLED NUMBER TWENTY
24f5 DOUBLE CIRCLED DIGIT ONE
24f6 DOUBLE CIRCLED DIGIT TWO
24f7 DOUBLE CIRCLED DIGIT THREE
24f8 DOUBLE CIRCLED DIGIT FOUR
24f9 DOUBLE CIRCLED DIGIT FIVE
24fa DOUBLE CIRCLED DIGIT SIX
24fb DOUBLE CIRCLED DIGIT SEVEN
24fc DOUBLE CIRCLED DIGIT EIGHT
24fd DOUBLE CIRCLED DIGIT NINE
24fe DOUBLE CIRCLED NUMBER TEN
24ff NEGATIVE CIRCLED DIGIT ZERO
2500 BOX DRAWINGS LIGHT HORIZONTAL
2501 BOX DRAWINGS HEAVY HORIZONTAL
2502 BOX DRAWINGS LIGHT VERTICAL
2503 BOX DRAWINGS HEAVY VERTICAL
2504 BOX DRAWINGS LIGHT TRIPLE DASH HORIZONTAL
2505 BOX DRAWINGS HEAVY TRIPLE DASH HORIZONTAL
2506 BOX DRAWINGS LIGHT TRIPLE DASH VERTICAL
2507 BOX DRAWINGS HEAVY TRIPLE DASH VERTICAL
2508 BOX DRAWINGS LIGHT QUADRUPLE DASH HORIZONTAL
2509 BOX DRAWINGS HEAVY QUADRUPLE DASH HORIZONTAL
250a BOX DRAWINGS LIGHT QUADRUPLE DASH VERTICAL
250b BOX DRAWINGS HEAVY QUADRUPLE DASH VERTICAL
250c BOX DRAWINGS LIGHT DOWN AND RIGHT
250d BOX DRAWINGS DOWN LIGHT AND RIGHT HEAVY
250e BOX DRAWINGS DOWN HEAVY AND RIGHT LIGHT
250f BOX DRAWINGS HEAVY DOWN AND RIGHT
2510 BOX DRAWINGS LIGHT DOWN AND LEFT
2511 BOX DRAWINGS DOWN LIGHT AND LEFT HEAVY
2512 BOX DRAWINGS DOWN HEAVY AND LEFT LIGHT
2513 BOX DRAWINGS HEAVY DOWN AND LEFT
2514 BOX DRAWINGS LIGHT UP AND RIGHT
2515 BOX DRAWINGS UP LIGHT AND RIGHT HEAVY
2516 BOX DRAWINGS UP HEAVY AND RIGHT LIGHT
2517 BOX DRAWINGS HEAVY UP AND RIGHT
2518 BOX DRAWINGS LIGHT UP AND LEFT
2519 BOX DRAWINGS UP LIGHT AND LEFT HEAVY
251a BOX DRAWINGS UP HEAVY AND LEFT LIGHT
251b BOX DRAWINGS HEAVY UP AND LEFT
251c BOX DRAWINGS LIGHT VERTICAL AND RIGHT
251d BOX DRAWINGS VERTICAL LIGHT AND RIGHT HEAVY
251e BOX DRAWINGS UP HEAVY AND RIGHT DOWN LIGHT
251f BOX DRAWINGS DOWN HEAVY AND RIGHT UP LIGHT
2520 BOX DRAWINGS VERTICAL HEAVY AND RIGHT LIGHT
2521 BOX DRAWINGS DOWN LIGHT AND RIGHT UP HEAVY
2522 BOX DRAWINGS UP LIGHT AND RIGHT DOWN HEAVY
2523 BOX DRAWINGS HEAVY VERTICAL AND RIGHT
2524 BOX DRAWINGS LIGHT VERTICAL AND LEFT
2525 BOX DRAWINGS VERTICAL LIGHT AND LEFT HEAVY
2526 BOX DRAWINGS UP HEAVY AND LEFT DOWN LIGHT
2527 BOX DRAWINGS DOWN HEAVY AND LEFT UP LIGHT
2528 BOX DRAWINGS VERTICAL HEAVY AND LEFT LIGHT
2529 BOX DRAWINGS DOWN LIGHT AND LEFT UP HEAVY
252a BOX DRAWINGS UP LIGHT AND LEFT DOWN HEAVY
252b BOX DRAWINGS HEAVY VERTICAL AND LEFT
252c BOX DRAWINGS LIGHT DOWN AND HORIZONTAL
252d BOX DRAWINGS LEFT HEAVY AND RIGHT DOWN LIGHT
252e BOX DRAWINGS RIGHT HEAVY AND LEFT DOWN LIGHT
252f BOX DRAWINGS DOWN LIGHT AND HORIZONTAL HEAVY
2530 BOX DRAWINGS DOWN HEAVY AND HORIZONTAL LIGHT"

/-- Names, part 24: a number in hexadecimal and a name on each line. -/
def characterNames24 : String :=
  "2531 BOX DRAWINGS RIGHT LIGHT AND LEFT DOWN HEAVY
2532 BOX DRAWINGS LEFT LIGHT AND RIGHT DOWN HEAVY
2533 BOX DRAWINGS HEAVY DOWN AND HORIZONTAL
2534 BOX DRAWINGS LIGHT UP AND HORIZONTAL
2535 BOX DRAWINGS LEFT HEAVY AND RIGHT UP LIGHT
2536 BOX DRAWINGS RIGHT HEAVY AND LEFT UP LIGHT
2537 BOX DRAWINGS UP LIGHT AND HORIZONTAL HEAVY
2538 BOX DRAWINGS UP HEAVY AND HORIZONTAL LIGHT
2539 BOX DRAWINGS RIGHT LIGHT AND LEFT UP HEAVY
253a BOX DRAWINGS LEFT LIGHT AND RIGHT UP HEAVY
253b BOX DRAWINGS HEAVY UP AND HORIZONTAL
253c BOX DRAWINGS LIGHT VERTICAL AND HORIZONTAL
253d BOX DRAWINGS LEFT HEAVY AND RIGHT VERTICAL LIGHT
253e BOX DRAWINGS RIGHT HEAVY AND LEFT VERTICAL LIGHT
253f BOX DRAWINGS VERTICAL LIGHT AND HORIZONTAL HEAVY
2540 BOX DRAWINGS UP HEAVY AND DOWN HORIZONTAL LIGHT
2541 BOX DRAWINGS DOWN HEAVY AND UP HORIZONTAL LIGHT
2542 BOX DRAWINGS VERTICAL HEAVY AND HORIZONTAL LIGHT
2543 BOX DRAWINGS LEFT UP HEAVY AND RIGHT DOWN LIGHT
2544 BOX DRAWINGS RIGHT UP HEAVY AND LEFT DOWN LIGHT
2545 BOX DRAWINGS LEFT DOWN HEAVY AND RIGHT UP LIGHT
2546 BOX DRAWINGS RIGHT DOWN HEAVY AND LEFT UP LIGHT
2547 BOX DRAWINGS DOWN LIGHT AND UP HORIZONTAL HEAVY
2548 BOX DRAWINGS UP LIGHT AND DOWN HORIZONTAL HEAVY
2549 BOX DRAWINGS RIGHT LIGHT AND LEFT VERTICAL HEAVY
254a BOX DRAWINGS LEFT LIGHT AND RIGHT VERTICAL HEAVY
254b BOX DRAWINGS HEAVY VERTICAL AND HORIZONTAL
254c BOX DRAWINGS LIGHT DOUBLE DASH HORIZONTAL
254d BOX DRAWINGS HEAVY DOUBLE DASH HORIZONTAL
254e BOX DRAWINGS LIGHT DOUBLE DASH VERTICAL
254f BOX DRAWINGS HEAVY DOUBLE DASH VERTICAL
2550 BOX DRAWINGS DOUBLE HORIZONTAL
2551 BOX DRAWINGS DOUBLE VERTICAL
2552 BOX DRAWINGS DOWN SINGLE AND RIGHT DOUBLE
2553 BOX DRAWINGS DOWN DOUBLE AND RIGHT SINGLE
2554 BOX DRAWINGS DOUBLE DOWN AND RIGHT
2555 BOX DRAWINGS DOWN SINGLE AND LEFT DOUBLE
2556 BOX DRAWINGS DOWN DOUBLE AND LEFT SINGLE
2557 BOX DRAWINGS DOUBLE DOWN AND LEFT
2558 BOX DRAWINGS UP SINGLE AND RIGHT DOUBLE
2559 BOX DRAWINGS UP DOUBLE AND RIGHT SINGLE
255a BOX DRAWINGS DOUBLE UP AND RIGHT
255b BOX DRAWINGS UP SINGLE AND LEFT DOUBLE
255c BOX DRAWINGS UP DOUBLE AND LEFT SINGLE
255d BOX DRAWINGS DOUBLE UP AND LEFT
255e BOX DRAWINGS VERTICAL SINGLE AND RIGHT DOUBLE
255f BOX DRAWINGS VERTICAL DOUBLE AND RIGHT SINGLE
2560 BOX DRAWINGS DOUBLE VERTICAL AND RIGHT
2561 BOX DRAWINGS VERTICAL SINGLE AND LEFT DOUBLE
2562 BOX DRAWINGS VERTICAL DOUBLE AND LEFT SINGLE
2563 BOX DRAWINGS DOUBLE VERTICAL AND LEFT
2564 BOX DRAWINGS DOWN SINGLE AND HORIZONTAL DOUBLE
2565 BOX DRAWINGS DOWN DOUBLE AND HORIZONTAL SINGLE
2566 BOX DRAWINGS DOUBLE DOWN AND HORIZONTAL
2567 BOX DRAWINGS UP SINGLE AND HORIZONTAL DOUBLE
2568 BOX DRAWINGS UP DOUBLE AND HORIZONTAL SINGLE
2569 BOX DRAWINGS DOUBLE UP AND HORIZONTAL
256a BOX DRAWINGS VERTICAL SINGLE AND HORIZONTAL DOUBLE
256b BOX DRAWINGS VERTICAL DOUBLE AND HORIZONTAL SINGLE
256c BOX DRAWINGS DOUBLE VERTICAL AND HORIZONTAL
256d BOX DRAWINGS LIGHT ARC DOWN AND RIGHT
256e BOX DRAWINGS LIGHT ARC DOWN AND LEFT
256f BOX DRAWINGS LIGHT ARC UP AND LEFT
2570 BOX DRAWINGS LIGHT ARC UP AND RIGHT
2571 BOX DRAWINGS LIGHT DIAGONAL UPPER RIGHT TO LOWER LEFT
2572 BOX DRAWINGS LIGHT DIAGONAL UPPER LEFT TO LOWER RIGHT
2573 BOX DRAWINGS LIGHT DIAGONAL CROSS
2574 BOX DRAWINGS LIGHT LEFT
2575 BOX DRAWINGS LIGHT UP
2576 BOX DRAWINGS LIGHT RIGHT
2577 BOX DRAWINGS LIGHT DOWN
2578 BOX DRAWINGS HEAVY LEFT
2579 BOX DRAWINGS HEAVY UP
257a BOX DRAWINGS HEAVY RIGHT
257b BOX DRAWINGS HEAVY DOWN
257c BOX DRAWINGS LIGHT LEFT AND HEAVY RIGHT
257d BOX DRAWINGS LIGHT UP AND HEAVY DOWN
257e BOX DRAWINGS HEAVY LEFT AND LIGHT RIGHT
257f BOX DRAWINGS HEAVY UP AND LIGHT DOWN
2580 UPPER HALF BLOCK
2581 LOWER ONE EIGHTH BLOCK
2582 LOWER ONE QUARTER BLOCK
2583 LOWER THREE EIGHTHS BLOCK
2584 LOWER HALF BLOCK
2585 LOWER FIVE EIGHTHS BLOCK
2586 LOWER THREE QUARTERS BLOCK
2587 LOWER SEVEN EIGHTHS BLOCK
2588 FULL BLOCK
2589 LEFT SEVEN EIGHTHS BLOCK
258a LEFT THREE QUARTERS BLOCK
258b LEFT FIVE EIGHTHS BLOCK
258c LEFT HALF BLOCK
258d LEFT THREE EIGHTHS BLOCK"

/-- Names, part 25: a number in hexadecimal and a name on each line. -/
def characterNames25 : String :=
  "258e LEFT ONE QUARTER BLOCK
258f LEFT ONE EIGHTH BLOCK
2590 RIGHT HALF BLOCK
2591 LIGHT SHADE
2592 MEDIUM SHADE
2593 DARK SHADE
2594 UPPER ONE EIGHTH BLOCK
2595 RIGHT ONE EIGHTH BLOCK
2596 QUADRANT LOWER LEFT
2597 QUADRANT LOWER RIGHT
2598 QUADRANT UPPER LEFT
2599 QUADRANT UPPER LEFT AND LOWER LEFT AND LOWER RIGHT
259a QUADRANT UPPER LEFT AND LOWER RIGHT
259b QUADRANT UPPER LEFT AND UPPER RIGHT AND LOWER LEFT
259c QUADRANT UPPER LEFT AND UPPER RIGHT AND LOWER RIGHT
259d QUADRANT UPPER RIGHT
259e QUADRANT UPPER RIGHT AND LOWER LEFT
259f QUADRANT UPPER RIGHT AND LOWER LEFT AND LOWER RIGHT
25a0 BLACK SQUARE
25a1 WHITE SQUARE
25a2 WHITE SQUARE WITH ROUNDED CORNERS
25a3 WHITE SQUARE CONTAINING BLACK SMALL SQUARE
25a4 SQUARE WITH HORIZONTAL FILL
25a5 SQUARE WITH VERTICAL FILL
25a6 SQUARE WITH ORTHOGONAL CROSSHATCH FILL
25a7 SQUARE WITH UPPER LEFT TO LOWER RIGHT FILL
25a8 SQUARE WITH UPPER RIGHT TO LOWER LEFT FILL
25a9 SQUARE WITH DIAGONAL CROSSHATCH FILL
25aa BLACK SMALL SQUARE
25ab WHITE SMALL SQUARE
25ac BLACK RECTANGLE
25ad WHITE RECTANGLE
25ae BLACK VERTICAL RECTANGLE
25af WHITE VERTICAL RECTANGLE
25b0 BLACK PARALLELOGRAM
25b1 WHITE PARALLELOGRAM
25b2 BLACK UP-POINTING TRIANGLE
25b3 WHITE UP-POINTING TRIANGLE
25b4 BLACK UP-POINTING SMALL TRIANGLE
25b5 WHITE UP-POINTING SMALL TRIANGLE
25b6 BLACK RIGHT-POINTING TRIANGLE
25b7 WHITE RIGHT-POINTING TRIANGLE
25b8 BLACK RIGHT-POINTING SMALL TRIANGLE
25b9 WHITE RIGHT-POINTING SMALL TRIANGLE
25ba BLACK RIGHT-POINTING POINTER
25bb WHITE RIGHT-POINTING POINTER
25bc BLACK DOWN-POINTING TRIANGLE
25bd WHITE DOWN-POINTING TRIANGLE
25be BLACK DOWN-POINTING SMALL TRIANGLE
25bf WHITE DOWN-POINTING SMALL TRIANGLE
25c0 BLACK LEFT-POINTING TRIANGLE
25c1 WHITE LEFT-POINTING TRIANGLE
25c2 BLACK LEFT-POINTING SMALL TRIANGLE
25c3 WHITE LEFT-POINTING SMALL TRIANGLE
25c4 BLACK LEFT-POINTING POINTER
25c5 WHITE LEFT-POINTING POINTER
25c6 BLACK DIAMOND
25c7 WHITE DIAMOND
25c8 WHITE DIAMOND CONTAINING BLACK SMALL DIAMOND
25c9 FISHEYE
25ca LOZENGE
25cb WHITE CIRCLE
25cc DOTTED CIRCLE
25cd CIRCLE WITH VERTICAL FILL
25ce BULLSEYE
25cf BLACK CIRCLE
25d0 CIRCLE WITH LEFT HALF BLACK
25d1 CIRCLE WITH RIGHT HALF BLACK
25d2 CIRCLE WITH LOWER HALF BLACK
25d3 CIRCLE WITH UPPER HALF BLACK
25d4 CIRCLE WITH UPPER RIGHT QUADRANT BLACK
25d5 CIRCLE WITH ALL BUT UPPER LEFT QUADRANT BLACK
25d6 LEFT HALF BLACK CIRCLE
25d7 RIGHT HALF BLACK CIRCLE
25d8 INVERSE BULLET
25d9 INVERSE WHITE CIRCLE
25da UPPER HALF INVERSE WHITE CIRCLE
25db LOWER HALF INVERSE WHITE CIRCLE
25dc UPPER LEFT QUADRANT CIRCULAR ARC
25dd UPPER RIGHT QUADRANT CIRCULAR ARC
25de LOWER RIGHT QUADRANT CIRCULAR ARC
25df LOWER LEFT QUADRANT CIRCULAR ARC
25e0 UPPER HALF CIRCLE
25e1 LOWER HALF CIRCLE
25e2 BLACK LOWER RIGHT TRIANGLE
25e3 BLACK LOWER LEFT TRIANGLE
25e4 BLACK UPPER LEFT TRIANGLE
25e5 BLACK UPPER RIGHT TRIANGLE
25e6 WHITE BULLET
25e7 SQUARE WITH LEFT HALF BLACK
25e8 SQUARE WITH RIGHT HALF BLACK
25e9 SQUARE WITH UPPER LEFT DIAGONAL HALF BLACK
25ea SQUARE WITH LOWER RIGHT DIAGONAL HALF BLACK
25eb WHITE SQUARE WITH VERTICAL BISECTING LINE
25ec WHITE UP-POINTING TRIANGLE WITH DOT
25ed UP-POINTING TRIANGLE WITH LEFT HALF BLACK
25ee UP-POINTING TRIANGLE WITH RIGHT HALF BLACK
25ef LARGE CIRCLE
25f0 WHITE SQUARE WITH UPPER LEFT QUADRANT
25f1 WHITE SQUARE WITH LOWER LEFT QUADRANT
25f2 WHITE SQUARE WITH LOWER RIGHT QUADRANT
25f3 WHITE SQUARE WITH UPPER RIGHT QUADRANT
25f4 WHITE CIRCLE WITH UPPER LEFT QUADRANT
25f5 WHITE CIRCLE WITH LOWER LEFT QUADRANT
25f6 WHITE CIRCLE WITH LOWER RIGHT QUADRANT
25f7 WHITE CIRCLE WITH UPPER RIGHT QUADRANT
25f8 UPPER LEFT TRIANGLE
25f9 UPPER RIGHT TRIANGLE
25fa LOWER LEFT TRIANGLE
25fb WHITE MEDIUM SQUARE
25fc BLACK MEDIUM SQUARE
25fd WHITE MEDIUM SMALL SQUARE
25fe BLACK MEDIUM SMALL SQUARE
25ff LOWER RIGHT TRIANGLE
2600 BLACK SUN WITH RAYS
2601 CLOUD
2602 UMBRELLA
2603 SNOWMAN
2604 COMET
2605 BLACK STAR
2606 WHITE STAR
2607 LIGHTNING
2608 THUNDERSTORM
2609 SUN
260a ASCENDING NODE
260b DESCENDING NODE
260c CONJUNCTION
260d OPPOSITION"

/-- Names, part 26: a number in hexadecimal and a name on each line. -/
def characterNames26 : String :=
  "260e BLACK TELEPHONE
260f WHITE TELEPHONE
2610 BALLOT BOX
2611 BALLOT BOX WITH CHECK
2612 BALLOT BOX WITH X
2613 SALTIRE
2614 UMBRELLA WITH RAIN DROPS
2615 HOT BEVERAGE
2616 WHITE SHOGI PIECE
2617 BLACK SHOGI PIECE
2618 SHAMROCK
2619 REVERSED ROTATED FLORAL HEART BULLET
261a BLACK LEFT POINTING INDEX
261b BLACK RIGHT POINTING INDEX
261c WHITE LEFT POINTING INDEX
261d WHITE UP POINTING INDEX
261e WHITE RIGHT POINTING INDEX
261f WHITE DOWN POINTING INDEX
2620 SKULL AND CROSSBONES
2621 CAUTION SIGN
2622 RADIOACTIVE SIGN
2623 BIOHAZARD SIGN
2624 CADUCEUS
2625 ANKH
2626 ORTHODOX CROSS
2627 CHI RHO
2628 CROSS OF LORRAINE
2629 CROSS OF JERUSALEM
262a STAR AND CRESCENT
262b FARSI SYMBOL
262c ADI SHAKTI
262d HAMMER AND SICKLE
262e PEACE SYMBOL
262f YIN YANG
2630 TRIGRAM FOR HEAVEN
2631 TRIGRAM FOR LAKE
2632 TRIGRAM FOR FIRE
2633 TRIGRAM FOR THUNDER
2634 TRIGRAM FOR WIND
2635 TRIGRAM FOR WATER
2636 TRIGRAM FOR MOUNTAIN
2637 TRIGRAM FOR EARTH
2638 WHEEL OF DHARMA
2639 WHITE FROWNING FACE
263a WHITE SMILING FACE
263b BLACK SMILING FACE
263c WHITE SUN WITH RAYS
263d FIRST QUARTER MOON
263e LAST QUARTER MOON
263f MERCURY
2640 FEMALE SIGN
2641 EARTH
2642 MALE SIGN
2643 JUPITER
2644 SATURN
2645 URANUS
2646 NEPTUNE
2647 PLUTO
2648 ARIES
2649 TAURUS
264a GEMINI
264b CANCER
264c LEO
264d VIRGO
264e LIBRA
264f SCORPIUS
2650 SAGITTARIUS
2651 CAPRICORN
2652 AQUARIUS
2653 PISCES
2654 WHITE CHESS KING
2655 WHITE CHESS QUEEN
2656 WHITE CHESS ROOK
2657 WHITE CHESS BISHOP
2658 WHITE CHESS KNIGHT
2659 WHITE CHESS PAWN
265a BLACK CHESS KING
265b BLACK CHESS QUEEN
265c BLACK CHESS ROOK
265d BLACK CHESS BISHOP
265e BLACK CHESS KNIGHT
265f BLACK CHESS PAWN
2660 BLACK SPADE SUIT
2661 WHITE HEART SUIT
2662 WHITE DIAMOND SUIT
2663 BLACK CLUB SUIT
2664 WHITE SPADE SUIT
2665 BLACK HEART SUIT
2666 BLACK DIAMOND SUIT
2667 WHITE CLUB SUIT
2668 HOT SPRINGS
2669 QUARTER NOTE
266a EIGHTH NOTE
266b BEAMED EIGHTH NOTES
266c BEAMED SIXTEENTH NOTES
266d MUSIC FLAT SIGN
266e MUSIC NATURAL SIGN
266f MUSIC SHARP SIGN
2670 WEST SYRIAC CROSS
2671 EAST SYRIAC CROSS
2672 UNIVERSAL RECYCLING SYMBOL
2673 RECYCLING SYMBOL FOR TYPE-1 PLASTICS
2674 RECYCLING SYMBOL FOR TYPE-2 PLASTICS
2675 RECYCLING SYMBOL FOR TYPE-3 PLASTICS
2676 RECYCLING SYMBOL FOR TYPE-4 PLASTICS
2677 RECYCLING SYMBOL FOR TYPE-5 PLASTICS
2678 RECYCLING SYMBOL FOR TYPE-6 PLASTICS
2679 RECYCLING SYMBOL FOR TYPE-7 PLASTICS
267a RECYCLING SYMBOL FOR GENERIC MATERIALS
267b BLACK UNIVERSAL RECYCLING SYMBOL
267c RECYCLED PAPER SYMBOL
267d PARTIALLY-RECYCLED PAPER SYMBOL
267e PERMANENT PAPER SIGN
267f WHEELCHAIR SYMBOL
2680 DIE FACE-1
2681 DIE FACE-2
2682 DIE FACE-3
2683 DIE FACE-4
2684 DIE FACE-5
2685 DIE FACE-6
2686 WHITE CIRCLE WITH DOT RIGHT
2687 WHITE CIRCLE WITH TWO DOTS
2688 BLACK CIRCLE WITH WHITE DOT RIGHT
2689 BLACK CIRCLE WITH TWO WHITE DOTS
268a MONOGRAM FOR YANG
268b MONOGRAM FOR YIN
268c DIGRAM FOR GREATER YANG
268d DIGRAM FOR LESSER YIN
268e DIGRAM FOR LESSER YANG
268f DIGRAM FOR GREATER YIN
2690 WHITE FLAG
2691 BLACK FLAG
2692 HAMMER AND PICK
2693 ANCHOR
2694 CROSSED SWORDS
2695 STAFF OF AESCULAPIUS
2696 SCALES
2697 ALEMBIC
2698 FLOWER
2699 GEAR
269a STAFF OF HERMES
269b ATOM SYMBOL
269c FLEUR-DE-LIS
269d OUTLINED WHITE STAR
269e THREE LINES CONVERGING RIGHT
269f THREE LINES CONVERGING LEFT
26a0 WARNING SIGN
26a1 HIGH VOLTAGE SIGN
26a2 DOUBLED FEMALE SIGN
26a3 DOUBLED MALE SIGN
26a4 INTERLOCKED FEMALE AND MALE SIGN
26a5 MALE AND FEMALE SIGN
26a6 MALE WITH STROKE SIGN
26a7 MALE WITH STROKE AND MALE AND FEMALE SIGN
26a8 VERTICAL MALE WITH STROKE SIGN
26a9 HORIZONTAL MALE WITH STROKE SIGN
26aa MEDIUM WHITE CIRCLE
26ab MEDIUM BLACK CIRCLE
26ac MEDIUM SMALL WHITE CIRCLE
26ad MARRIAGE SYMBOL
26ae DIVORCE SYMBOL
26af UNMARRIED PARTNERSHIP SYMBOL
26b0 COFFIN
26b1 FUNERAL URN
26b2 NEUTER
26b3 CERES
26b4 PALLAS
26b5 JUNO
26b6 VESTA
26b7 CHIRON
26b8 BLACK MOON LILITH
26b9 SEXTILE
26ba SEMISEXTILE
26bb QUINCUNX
26bc SESQUIQUADRATE
26bd SOCCER BALL
26be BASEBALL
26bf SQUARED KEY
26c0 WHITE DRAUGHTS MAN"

/-- Names, part 27: a number in hexadecimal and a name on each line. -/
def characterNames27 : String :=
  "26c1 WHITE DRAUGHTS KING
26c2 BLACK DRAUGHTS MAN
26c3 BLACK DRAUGHTS KING
26c4 SNOWMAN WITHOUT SNOW
26c5 SUN BEHIND CLOUD
26c6 RAIN
26c7 BLACK SNOWMAN
26c8 THUNDER CLOUD AND RAIN
26c9 TURNED WHITE SHOGI PIECE
26ca TURNED BLACK SHOGI PIECE
26cb WHITE DIAMOND IN SQUARE
26cc CROSSING LANES
26cd DISABLED CAR
26ce OPHIUCHUS
26cf PICK
26d0 CAR SLIDING
26d1 HELMET WITH WHITE CROSS
26d2 CIRCLED CROSSING LANES
26d3 CHAINS
26d4 NO ENTRY
26d5 ALTERNATE ONE-WAY LEFT WAY TRAFFIC
26d6 BLACK TWO-WAY LEFT WAY TRAFFIC
26d7 WHITE TWO-WAY LEFT WAY TRAFFIC
26d8 BLACK LEFT LANE MERGE
26d9 WHITE LEFT LANE MERGE
26da DRIVE SLOW SIGN
26db HEAVY WHITE DOWN-POINTING TRIANGLE
26dc LEFT CLOSED ENTRY
26dd SQUARED SALTIRE
26de FALLING DIAGONAL IN WHITE CIRCLE IN BLACK SQUARE
26df BLACK TRUCK
26e0 RESTRICTED LEFT ENTRY-1
26e1 RESTRICTED LEFT ENTRY-2
26e2 ASTRONOMICAL SYMBOL FOR URANUS
26e3 HEAVY CIRCLE WITH STROKE AND TWO DOTS ABOVE
26e4 PENTAGRAM
26e5 RIGHT-HANDED INTERLACED PENTAGRAM
26e6 LEFT-HANDED INTERLACED PENTAGRAM
26e7 INVERTED PENTAGRAM
26e8 BLACK CROSS ON SHIELD
26e9 SHINTO SHRINE
26ea CHURCH
26eb CASTLE
26ec HISTORIC SITE
26ed GEAR WITHOUT HUB
26ee GEAR WITH HANDLES
26ef MAP SYMBOL FOR LIGHTHOUSE
26f0 MOUNTAIN
26f1 UMBRELLA ON GROUND
26f2 FOUNTAIN
26f3 FLAG IN HOLE
26f4 FERRY
26f5 SAILBOAT
26f6 SQUARE FOUR CORNERS
26f7 SKIER
26f8 ICE SKATE
26f9 PERSON WITH BALL
26fa TENT
26fb JAPANESE BANK SYMBOL
26fc HEADSTONE GRAVEYARD SYMBOL
26fd FUEL PUMP
26fe CUP ON BLACK SQUARE
26ff WHITE FLAG WITH HORIZONTAL MIDDLE BLACK STRIPE
2700 BLACK SAFETY SCISSORS
2701 UPPER BLADE SCISSORS
2702 BLACK SCISSORS
2703 LOWER BLADE SCISSORS
2704 WHITE SCISSORS
2705 WHITE HEAVY CHECK MARK
2706 TELEPHONE LOCATION SIGN
2707 TAPE DRIVE
2708 AIRPLANE
2709 ENVELOPE
270a RAISED FIST
270b RAISED HAND
270c VICTORY HAND
270d WRITING HAND
270e LOWER RIGHT PENCIL
270f PENCIL
2710 UPPER RIGHT PENCIL
2711 WHITE NIB
2712 BLACK NIB
2713 CHECK MARK
2714 HEAVY CHECK MARK
2715 MULTIPLICATION X
2716 HEAVY MULTIPLICATION X
2717 BALLOT X
2718 HEAVY BALLOT X
2719 OUTLINED GREEK CROSS
271a HEAVY GREEK CROSS
271b OPEN CENTRE CROSS
271c HEAVY OPEN CENTRE CROSS
271d LATIN CROSS
271e SHADOWED WHITE LATIN CROSS
271f OUTLINED LATIN CROSS
2720 MALTESE CROSS
2721 STAR OF DAVID
2722 FOUR TEARDROP-SPOKED ASTERISK
2723 FOUR BALLOON-SPOKED ASTERISK
2724 HEAVY FOUR BALLOON-SPOKED ASTERISK
2725 FOUR CLUB-SPOKED ASTERISK
2726 BLACK FOUR POINTED STAR
2727 WHITE FOUR POINTED STAR
2728 SPARKLES
2729 STRESS OUTLINED WHITE STAR
272a CIRCLED WHITE STAR
272b OPEN CENTRE BLACK STAR
272c BLACK CENTRE WHITE STAR
272d OUTLINED BLACK STAR
272e HEAVY OUTLINED BLACK STAR
272f PINWHEEL STAR
2730 SHADOWED WHITE STAR
2731 HEAVY ASTERISK
2732 OPEN CENTRE ASTERISK
2733 EIGHT SPOKED ASTERISK
2734 EIGHT POINTED BLACK STAR
2735 EIGHT POINTED PINWHEEL STAR
2736 SIX POINTED BLACK STAR
2737 EIGHT POINTED RECTILINEAR BLACK STAR
2738 HEAVY EIGHT POINTED RECTILINEAR BLACK STAR
2739 TWELVE POINTED BLACK STAR
273a SIXTEEN POINTED ASTERISK
273b TEARDROP-SPOKED ASTERISK
273c OPEN CENTRE TEARDROP-SPOKED ASTERISK
273d HEAVY TEARDROP-SPOKED ASTERISK
273e SIX PETALLED BLACK AND WHITE FLORETTE
273f BLACK FLORETTE
2740 WHITE FLORETTE
2741 EIGHT PETALLED OUTLINED BLACK FLORETTE
2742 CIRCLED OPEN CENTRE EIGHT POINTED STAR
2743 HEAVY TEARDROP-SPOKED PINWHEEL ASTERISK
2744 SNOWFLAKE
2745 TIGHT TRIFOLIATE SNOWFLAKE
2746 HEAVY CHEVRON SNOWFLAKE
2747 SPARKLE
2748 HEAVY SPARKLE
2749 BALLOON-SPOKED ASTERISK
274a EIGHT TEARDROP-SPOKED PROPELLER ASTERISK
274b HEAVY EIGHT TEARDROP-SPOKED PROPELLER ASTERISK
274c CROSS MARK
274d SHADOWED WHITE CIRCLE
274e NEGATIVE SQUARED CROSS MARK
274f LOWER RIGHT DROP-SHADOWED WHITE SQUARE
2750 UPPER RIGHT DROP-SHADOWED WHITE SQUARE
2751 LOWER RIGHT SHADOWED WHITE SQUARE
2752 UPPER RIGHT SHADOWED WHITE SQUARE
2753 BLACK QUESTION MARK ORNAMENT
2754 WHITE QUESTION MARK ORNAMENT
2755 WHITE EXCLAMATION MARK ORNAMENT
2756 BLACK DIAMOND MINUS WHITE X
2757 HEAVY EXCLAMATION MARK SYMBOL
2758 LIGHT VERTICAL BAR"

/-- Names, part 28: a number in hexadecimal and a name on each line. -/
def characterNames28 : String :=
  "2759 MEDIUM VERTICAL BAR
275a HEAVY VERTICAL BAR
275b HEAVY SINGLE TURNED COMMA QUOTATION MARK ORNAMENT
275c HEAVY SINGLE COMMA QUOTATION MARK ORNAMENT
275d HEAVY DOUBLE TURNED COMMA QUOTATION MARK ORNAMENT
275e HEAVY DOUBLE COMMA QUOTATION MARK ORNAMENT
275f HEAVY LOW SINGLE COMMA QUOTATION MARK ORNAMENT
2760 HEAVY LOW DOUBLE COMMA QUOTATION MARK ORNAMENT
2761 CURVED STEM PARAGRAPH SIGN ORNAMENT
2762 HEAVY EXCLAMATION MARK ORNAMENT
2763 HEAVY HEART EXCLAMATION MARK ORNAMENT
2764 HEAVY BLACK HEART
2765 ROTATED HEAVY BLACK HEART BULLET
2766 FLORAL HEART
2767 ROTATED FLORAL HEART BULLET
2768 MEDIUM LEFT PARENTHESIS ORNAMENT
2769 MEDIUM RIGHT PARENTHESIS ORNAMENT
276a MEDIUM FLATTENED LEFT PARENTHESIS ORNAMENT
276b MEDIUM FLATTENED RIGHT PARENTHESIS ORNAMENT
276c MEDIUM LEFT-POINTING ANGLE BRACKET ORNAMENT
276d MEDIUM RIGHT-POINTING ANGLE BRACKET ORNAMENT
276e HEAVY LEFT-POINTING ANGLE QUOTATION MARK ORNAMENT
276f HEAVY RIGHT-POINTING ANGLE QUOTATION MARK ORNAMENT
2770 HEAVY LEFT-POINTING ANGLE BRACKET ORNAMENT
2771 HEAVY RIGHT-POINTING ANGLE BRACKET ORNAMENT
2772 LIGHT LEFT TORTOISE SHELL BRACKET ORNAMENT
2773 LIGHT RIGHT TORTOISE SHELL BRACKET ORNAMENT
2774 MEDIUM LEFT CURLY BRACKET ORNAMENT
2775 MEDIUM RIGHT CURLY BRACKET ORNAMENT
2776 DINGBAT NEGATIVE CIRCLED DIGIT ONE
2777 DINGBAT NEGATIVE CIRCLED DIGIT TWO
2778 DINGBAT NEGATIVE CIRCLED DIGIT THREE
2779 DINGBAT NEGATIVE CIRCLED DIGIT FOUR
277a DINGBAT NEGATIVE CIRCLED DIGIT FIVE
277b DINGBAT NEGATIVE CIRCLED DIGIT SIX
277c DINGBAT NEGATIVE CIRCLED DIGIT SEVEN
277d DINGBAT NEGATIVE CIRCLED DIGIT EIGHT
277e DINGBAT NEGATIVE CIRCLED DIGIT NINE
277f DINGBAT NEGATIVE CIRCLED NUMBER TEN
2780 DINGBAT CIRCLED SANS-SERIF DIGIT ONE
2781 DINGBAT CIRCLED SANS-SERIF DIGIT TWO
2782 DINGBAT CIRCLED SANS-SERIF DIGIT THREE
2783 DINGBAT CIRCLED SANS-SERIF DIGIT FOUR
2784 DINGBAT CIRCLED SANS-SERIF DIGIT FIVE
2785 DINGBAT CIRCLED SANS-SERIF DIGIT SIX
2786 DINGBAT CIRCLED SANS-SERIF DIGIT SEVEN
2787 DINGBAT CIRCLED SANS-SERIF DIGIT EIGHT
2788 DINGBAT CIRCLED SANS-SERIF DIGIT NINE
2789 DINGBAT CIRCLED SANS-SERIF NUMBER TEN
278a DINGBAT NEGATIVE CIRCLED SANS-SERIF DIGIT ONE
278b DINGBAT NEGATIVE CIRCLED SANS-SERIF DIGIT TWO
278c DINGBAT NEGATIVE CIRCLED SANS-SERIF DIGIT THREE
278d DINGBAT NEGATIVE CIRCLED SANS-SERIF DIGIT FOUR
278e DINGBAT NEGATIVE CIRCLED SANS-SERIF DIGIT FIVE
278f DINGBAT NEGATIVE CIRCLED SANS-SERIF DIGIT SIX
2790 DINGBAT NEGATIVE CIRCLED SANS-SERIF DIGIT SEVEN
2791 DINGBAT NEGATIVE CIRCLED SANS-SERIF DIGIT EIGHT
2792 DINGBAT NEGATIVE CIRCLED SANS-SERIF DIGIT NINE
2793 DINGBAT NEGATIVE CIRCLED SANS-SERIF NUMBER TEN
2794 HEAVY WIDE-HEADED RIGHTWARDS ARROW
2795 HEAVY PLUS SIGN
2796 HEAVY MINUS SIGN
2797 HEAVY DIVISION SIGN
2798 HEAVY SOUTH EAST ARROW
2799 HEAVY RIGHTWARDS ARROW
279a HEAVY NORTH EAST ARROW
279b DRAFTING POINT RIGHTWARDS ARROW
279c HEAVY ROUND-TIPPED RIGHTWARDS ARROW
279d TRIANGLE-HEADED RIGHTWARDS ARROW
279e HEAVY TRIANGLE-HEADED RIGHTWARDS ARROW
279f DASHED TRIANGLE-HEADED RIGHTWARDS ARROW
27a0 HEAVY DASHED TRIANGLE-HEADED RIGHTWARDS ARROW
27a1 BLACK RIGHTWARDS ARROW
27a2 THREE-D TOP-LIGHTED RIGHTWARDS ARROWHEAD
27a3 THREE-D BOTTOM-LIGHTED RIGHTWARDS ARROWHEAD
27a4 BLACK RIGHTWARDS ARROWHEAD
27a5 HEAVY BLACK CURVED DOWNWARDS AND RIGHTWARDS ARROW
27a6 HEAVY BLACK CURVED UPWARDS AND RIGHTWARDS ARROW
27a7 SQUAT BLACK RIGHTWARDS ARROW
27a8 HEAVY CONCAVE-POINTED BLACK RIGHTWARDS ARROW
27a9 RIGHT-SHADED WHITE RIGHTWARDS ARROW
27aa LEFT-SHADED WHITE RIGHTWARDS ARROW
27ab BACK-TILTED SHADOWED WHITE RIGHTWARDS ARROW
27ac FRONT-TILTED SHADOWED WHITE RIGHTWARDS ARROW
27ad HEAVY LOWER RIGHT-SHADOWED WHITE RIGHTWARDS ARROW
27ae HEAVY UPPER RIGHT-SHADOWED WHITE RIGHTWARDS ARROW
27af NOTCHED LOWER RIGHT-SHADOWED WHITE RIGHTWARDS ARROW
27b0 CURLY LOOP
27b1 NOTCHED UPPER RIGHT-SHADOWED WHITE RIGHTWARDS ARROW
27b2 CIRCLED HEAVY WHITE RIGHTWARDS ARROW
27b3 WHITE-FEATHERED RIGHTWARDS ARROW
27b4 BLACK-FEATHERED SOUTH EAST ARROW
27b5 BLACK-FEATHERED RIGHTWARDS ARROW"

/-- Names, part 29: a number in hexadecimal and a name on each line. -/
def characterNames29 : String :=
  "27b6 BLACK-FEATHERED NORTH EAST ARROW
27b7 HEAVY BLACK-FEATHERED SOUTH EAST ARROW
27b8 HEAVY BLACK-FEATHERED RIGHTWARDS ARROW
27b9 HEAVY BLACK-FEATHERED NORTH EAST ARROW
27ba TEARDROP-BARBED RIGHTWARDS ARROW
27bb HEAVY TEARDROP-SHANKED RIGHTWARDS ARROW
27bc WEDGE-TAILED RIGHTWARDS ARROW
27bd HEAVY WEDGE-TAILED RIGHTWARDS ARROW
27be OPEN-OUTLINED RIGHTWARDS ARROW
27bf DOUBLE CURLY LOOP
27c0 THREE DIMENSIONAL ANGLE
27c1 WHITE TRIANGLE CONTAINING SMALL WHITE TRIANGLE
27c2 PERPENDICULAR
27c3 OPEN SUBSET
27c4 OPEN SUPERSET
27c5 LEFT S-SHAPED BAG DELIMITER
27c6 RIGHT S-SHAPED BAG DELIMITER
27c7 OR WITH DOT INSIDE
27c8 REVERSE SOLIDUS PRECEDING SUBSET
27c9 SUPERSET PRECEDING SOLIDUS
27ca VERTICAL BAR WITH HORIZONTAL STROKE
27cb MATHEMATICAL RISING DIAGONAL
27cc LONG DIVISION
27cd MATHEMATICAL FALLING DIAGONAL
27ce SQUARED LOGICAL AND
27cf SQUARED LOGICAL OR
27d0 WHITE DIAMOND WITH CENTRED DOT
27d1 AND WITH DOT
27d2 ELEMENT OF OPENING UPWARDS
27d3 LOWER RIGHT CORNER WITH DOT
27d4 UPPER LEFT CORNER WITH DOT
27d5 LEFT OUTER JOIN
27d6 RIGHT OUTER JOIN
27d7 FULL OUTER JOIN
27d8 LARGE UP TACK
27d9 LARGE DOWN TACK
27da LEFT AND RIGHT DOUBLE TURNSTILE
27db LEFT AND RIGHT TACK
27dc LEFT MULTIMAP
27dd LONG RIGHT TACK
27de LONG LEFT TACK
27df UP TACK WITH CIRCLE ABOVE
27e0 LOZENGE DIVIDED BY HORIZONTAL RULE
27e1 WHITE CONCAVE-SIDED DIAMOND
27e2 WHITE CONCAVE-SIDED DIAMOND WITH LEFTWARDS TICK
27e3 WHITE CONCAVE-SIDED DIAMOND WITH RIGHTWARDS TICK
27e4 WHITE SQUARE WITH LEFTWARDS TICK
27e5 WHITE SQUARE WITH RIGHTWARDS TICK
27e6 MATHEMATICAL LEFT WHITE SQUARE BRACKET
27e7 MATHEMATICAL RIGHT WHITE SQUARE BRACKET
27e8 MATHEMATICAL LEFT ANGLE BRACKET
27e9 MATHEMATICAL RIGHT ANGLE BRACKET
27ea MATHEMATICAL LEFT DOUBLE ANGLE BRACKET
27eb MATHEMATICAL RIGHT DOUBLE ANGLE BRACKET
27ec MATHEMATICAL LEFT WHITE TORTOISE SHELL BRACKET
27ed MATHEMATICAL RIGHT WHITE TORTOISE SHELL BRACKET
27ee MATHEMATICAL LEFT FLATTENED PARENTHESIS
27ef MATHEMATICAL RIGHT FLATTENED PARENTHESIS
27f0 UPWARDS QUADRUPLE ARROW
27f1 DOWNWARDS QUADRUPLE ARROW
27f2 ANTICLOCKWISE GAPPED CIRCLE ARROW
27f3 CLOCKWISE GAPPED CIRCLE ARROW
27f4 RIGHT ARROW WITH CIRCLED PLUS
27f5 LONG LEFTWARDS ARROW
27f6 LONG RIGHTWARDS ARROW
27f7 LONG LEFT RIGHT ARROW
27f8 LONG LEFTWARDS DOUBLE ARROW
27f9 LONG RIGHTWARDS DOUBLE ARROW
27fa LONG LEFT RIGHT DOUBLE ARROW
27fb LONG LEFTWARDS ARROW FROM BAR
27fc LONG RIGHTWARDS ARROW FROM BAR
27fd LONG LEFTWARDS DOUBLE ARROW FROM BAR
27fe LONG RIGHTWARDS DOUBLE ARROW FROM BAR
27ff LONG RIGHTWARDS SQUIGGLE ARROW
2900 RIGHTWARDS TWO-HEADED ARROW WITH VERTICAL STROKE
2901 RIGHTWARDS TWO-HEADED ARROW WITH DOUBLE VERTICAL STROKE
2902 LEFTWARDS DOUBLE ARROW WITH VERTICAL STROKE
2903 RIGHTWARDS DOUBLE ARROW WITH VERTICAL STROKE
2904 LEFT RIGHT DOUBLE ARROW WITH VERTICAL STROKE
2905 RIGHTWARDS TWO-HEADED ARROW FROM BAR
2906 LEFTWARDS DOUBLE ARROW FROM BAR
2907 RIGHTWARDS DOUBLE ARROW FROM BAR
2908 DOWNWARDS ARROW WITH HORIZONTAL STROKE
2909 UPWARDS ARROW WITH HORIZONTAL STROKE
290a UPWARDS TRIPLE ARROW
290b DOWNWARDS TRIPLE ARROW
290c LEFTWARDS DOUBLE DASH ARROW
290d RIGHTWARDS DOUBLE DASH ARROW
290e LEFTWARDS TRIPLE DASH ARROW
290f RIGHTWARDS TRIPLE DASH ARROW
2910 RIGHTWARDS TWO-HEADED TRIPLE DASH ARROW
2911 RIGHTWARDS ARROW WITH DOTTED STEM
2912 UPWARDS ARROW TO BAR
2913 DOWNWARDS ARROW TO BAR
2914 RIGHTWARDS ARROW WITH TAIL WITH VERTICAL STROKE
2915 RIGHTWARDS ARROW WITH TAIL WITH DOUBLE VERTICAL STROKE
2916 RIGHTWARDS TWO-HEADED ARROW WITH TAIL
2917 RIGHTWARDS TWO-HEADED ARROW WITH TAIL WITH VERTICAL STROKE
2918 RIGHTWARDS TWO-HEADED ARROW WITH TAIL WITH DOUBLE VERTICAL STROKE
2919 LEFTWARDS ARROW-TAIL
291a RIGHTWARDS ARROW-TAIL
291b LEFTWARDS DOUBLE ARROW-TAIL
291c RIGHTWARDS DOUBLE ARROW-TAIL
291d LEFTWARDS ARROW TO BLACK DIAMOND
291e RIGHTWARDS ARROW TO BLACK DIAMOND
291f LEFTWARDS ARROW FROM BAR TO BLACK DIAMOND
2920 RIGHTWARDS ARROW FROM BAR TO BLACK DIAMOND
2921 NORTH WEST AND SOUTH EAST ARROW
2922 NORTH EAST AND SOUTH WEST ARROW"

/-- Names, part 30: a number in hexadecimal and a name on each line. -/
def characterNames30 : String :=
  "2923 NORTH WEST ARROW WITH HOOK
2924 NORTH EAST ARROW WITH HOOK
2925 SOUTH EAST ARROW WITH HOOK
2926 SOUTH WEST ARROW WITH HOOK
2927 NORTH WEST ARROW AND NORTH EAST ARROW
2928 NORTH EAST ARROW AND SOUTH EAST ARROW
2929 SOUTH EAST ARROW AND SOUTH WEST ARROW
292a SOUTH WEST ARROW AND NORTH WEST ARROW
292b RISING DIAGONAL CROSSING FALLING DIAGONAL
292c FALLING DIAGONAL CROSSING RISING DIAGONAL
292d SOUTH EAST ARROW CROSSING NORTH EAST ARROW
292e NORTH EAST ARROW CROSSING SOUTH EAST ARROW
292f FALLING DIAGONAL CROSSING NORTH EAST ARROW
2930 RISING DIAGONAL CROSSING SOUTH EAST ARROW
2931 NORTH EAST ARROW CROSSING NORTH WEST ARROW
2932 NORTH WEST ARROW CROSSING NORTH EAST ARROW
2933 WAVE ARROW POINTING DIRECTLY RIGHT
2934 ARROW POINTING RIGHTWARDS THEN CURVING UPWARDS
2935 ARROW POINTING RIGHTWARDS THEN CURVING DOWNWARDS
2936 ARROW POINTING DOWNWARDS THEN CURVING LEFTWARDS
2937 ARROW POINTING DOWNWARDS THEN CURVING RIGHTWARDS
2938 RIGHT-SIDE ARC CLOCKWISE ARROW
2939 LEFT-SIDE ARC ANTICLOCKWISE ARROW
293a TOP ARC ANTICLOCKWISE ARROW
293b BOTTOM ARC ANTICLOCKWISE ARROW
293c TOP ARC CLOCKWISE ARROW WITH MINUS
293d TOP ARC ANTICLOCKWISE ARROW WITH PLUS
293e LOWER RIGHT SEMICIRCULAR CLOCKWISE ARROW
293f LOWER LEFT SEMICIRCULAR ANTICLOCKWISE ARROW
2940 ANTICLOCKWISE CLOSED CIRCLE ARROW
2941 CLOCKWISE CLOSED CIRCLE ARROW
2942 RIGHTWARDS ARROW ABOVE SHORT LEFTWARDS ARROW
2943 LEFTWARDS ARROW ABOVE SHORT RIGHTWARDS ARROW
2944 SHORT RIGHTWARDS ARROW ABOVE LEFTWARDS ARROW
2945 RIGHTWARDS ARROW WITH PLUS BELOW
2946 LEFTWARDS ARROW WITH PLUS BELOW
2947 RIGHTWARDS ARROW THROUGH X
2948 LEFT RIGHT ARROW THROUGH SMALL CIRCLE
2949 UPWARDS TWO-HEADED ARROW FROM SMALL CIRCLE
294a LEFT BARB UP RIGHT BARB DOWN HARPOON
294b LEFT BARB DOWN RIGHT BARB UP HARPOON
294c UP BARB RIGHT DOWN BARB LEFT HARPOON
294d UP BARB LEFT DOWN BARB RIGHT HARPOON
294e LEFT BARB UP RIGHT BARB UP HARPOON
294f UP BARB RIGHT DOWN BARB RIGHT HARPOON
2950 LEFT BARB DOWN RIGHT BARB DOWN HARPOON
2951 UP BARB LEFT DOWN BARB LEFT HARPOON
2952 LEFTWARDS HARPOON WITH BARB UP TO BAR
2953 RIGHTWARDS HARPOON WITH BARB UP TO BAR
2954 UPWARDS HARPOON WITH BARB RIGHT TO BAR
2955 DOWNWARDS HARPOON WITH BARB RIGHT TO BAR
2956 LEFTWARDS HARPOON WITH BARB DOWN TO BAR
2957 RIGHTWARDS HARPOON WITH BARB DOWN TO BAR
2958 UPWARDS HARPOON WITH BARB LEFT TO BAR
2959 DOWNWARDS HARPOON WITH BARB LEFT TO BAR
295a LEFTWARDS HARPOON WITH BARB UP FROM BAR
295b RIGHTWARDS HARPOON WITH BARB UP FROM BAR
295c UPWARDS HARPOON WITH BARB RIGHT FROM BAR
295d DOWNWARDS HARPOON WITH BARB RIGHT FROM BAR
295e LEFTWARDS HARPOON WITH BARB DOWN FROM BAR
295f RIGHTWARDS HARPOON WITH BARB DOWN FROM BAR
2960 UPWARDS HARPOON WITH BARB LEFT FROM BAR
2961 DOWNWARDS HARPOON WITH BARB LEFT FROM BAR
2962 LEFTWARDS HARPOON WITH BARB UP ABOVE LEFTWARDS HARPOON WITH BARB DOWN
2963 UPWARDS HARPOON WITH BARB LEFT BESIDE UPWARDS HARPOON WITH BARB RIGHT
2964 RIGHTWARDS HARPOON WITH BARB UP ABOVE RIGHTWARDS HARPOON WITH BARB DOWN
2965 DOWNWARDS HARPOON WITH BARB LEFT BESIDE DOWNWARDS HARPOON WITH BARB RIGHT
2966 LEFTWARDS HARPOON WITH BARB UP ABOVE RIGHTWARDS HARPOON WITH BARB UP
2967 LEFTWARDS HARPOON WITH BARB DOWN ABOVE RIGHTWARDS HARPOON WITH BARB DOWN
2968 RIGHTWARDS HARPOON WITH BARB UP ABOVE LEFTWARDS HARPOON WITH BARB UP
2969 RIGHTWARDS HARPOON WITH BARB DOWN ABOVE LEFTWARDS HARPOON WITH BARB DOWN
296a LEFTWARDS HARPOON WITH BARB UP ABOVE LONG DASH
296b LEFTWARDS HARPOON WITH BARB DOWN BELOW LONG DASH
296c RIGHTWARDS HARPOON WITH BARB UP ABOVE LONG DASH
296d RIGHTWARDS HARPOON WITH BARB DOWN BELOW LONG DASH
296e UPWARDS HARPOON WITH BARB LEFT BESIDE DOWNWARDS HARPOON WITH BARB RIGHT
296f DOWNWARDS HARPOON WITH BARB LEFT BESIDE UPWARDS HARPOON WITH BARB RIGHT
2970 RIGHT DOUBLE ARROW WITH ROUNDED HEAD
2971 EQUALS SIGN ABOVE RIGHTWARDS ARROW
2972 TILDE OPERATOR ABOVE RIGHTWARDS ARROW
2973 LEFTWARDS ARROW ABOVE TILDE OPERATOR
2974 RIGHTWARDS ARROW ABOVE TILDE OPERATOR
2975 RIGHTWARDS ARROW ABOVE ALMOST EQUAL TO"

/-- Names, part 31: a number in hexadecimal and a name on each line. -/
def characterNames31 : String :=
  "2976 LESS-THAN ABOVE LEFTWARDS ARROW
2977 LEFTWARDS ARROW THROUGH LESS-THAN
2978 GREATER-THAN ABOVE RIGHTWARDS ARROW
2979 SUBSET ABOVE RIGHTWARDS ARROW
297a LEFTWARDS ARROW THROUGH SUBSET
297b SUPERSET ABOVE LEFTWARDS ARROW
297c LEFT FISH TAIL
297d RIGHT FISH TAIL
297e UP FISH TAIL
297f DOWN FISH TAIL
2980 TRIPLE VERTICAL BAR DELIMITER
2981 Z NOTATION SPOT
2982 Z NOTATION TYPE COLON
2983 LEFT WHITE CURLY BRACKET
2984 RIGHT WHITE CURLY BRACKET
2985 LEFT WHITE PARENTHESIS
2986 RIGHT WHITE PARENTHESIS
2987 Z NOTATION LEFT IMAGE BRACKET
2988 Z NOTATION RIGHT IMAGE BRACKET
2989 Z NOTATION LEFT BINDING BRACKET
298a Z NOTATION RIGHT BINDING BRACKET
298b LEFT SQUARE BRACKET WITH UNDERBAR
298c RIGHT SQUARE BRACKET WITH UNDERBAR
298d LEFT SQUARE BRACKET WITH TICK IN TOP CORNER
298e RIGHT SQUARE BRACKET WITH TICK IN BOTTOM CORNER
298f LEFT SQUARE BRACKET WITH TICK IN BOTTOM CORNER
2990 RIGHT SQUARE BRACKET WITH TICK IN TOP CORNER
2991 LEFT ANGLE BRACKET WITH DOT
2992 RIGHT ANGLE BRACKET WITH DOT
2993 LEFT ARC LESS-THAN BRACKET
2994 RIGHT ARC GREATER-THAN BRACKET
2995 DOUBLE LEFT ARC GREATER-THAN BRACKET
2996 DOUBLE RIGHT ARC LESS-THAN BRACKET
2997 LEFT BLACK TORTOISE SHELL BRACKET
2998 RIGHT BLACK TORTOISE SHELL BRACKET
2999 DOTTED FENCE
299a VERTICAL ZIGZAG LINE
299b MEASURED ANGLE OPENING LEFT
299c RIGHT ANGLE VARIANT WITH SQUARE
299d MEASURED RIGHT ANGLE WITH DOT
299e ANGLE WITH S INSIDE
299f ACUTE ANGLE
29a0 SPHERICAL ANGLE OPENING LEFT
29a1 SPHERICAL ANGLE OPENING UP
29a2 TURNED ANGLE
29a3 REVERSED ANGLE
29a4 ANGLE WITH UNDERBAR
29a5 REVERSED ANGLE WITH UNDERBAR
29a6 OBLIQUE ANGLE OPENING UP
29a7 OBLIQUE ANGLE OPENING DOWN
29a8 MEASURED ANGLE WITH OPEN ARM ENDING IN ARROW POINTING UP AND RIGHT
29a9 MEASURED ANGLE WITH OPEN ARM ENDING IN ARROW POINTING UP AND LEFT
29aa MEASURED ANGLE WITH OPEN ARM ENDING IN ARROW POINTING DOWN AND RIGHT
29ab MEASURED ANGLE WITH OPEN ARM ENDING IN ARROW POINTING DOWN AND LEFT
29ac MEASURED ANGLE WITH OPEN ARM ENDING IN ARROW POINTING RIGHT AND UP
29ad MEASURED ANGLE WITH OPEN ARM ENDING IN ARROW POINTING LEFT AND UP
29ae MEASURED ANGLE WITH OPEN ARM ENDING IN ARROW POINTING RIGHT AND DOWN
29af MEASURED ANGLE WITH OPEN ARM ENDING IN ARROW POINTING LEFT AND DOWN
29b0 REVERSED EMPTY SET
29b1 EMPTY SET WITH OVERBAR
29b2 EMPTY SET WITH SMALL CIRCLE ABOVE
29b3 EMPTY SET WITH RIGHT ARROW ABOVE
29b4 EMPTY SET WITH LEFT ARROW ABOVE
29b5 CIRCLE WITH HORIZONTAL BAR
29b6 CIRCLED VERTICAL BAR
29b7 CIRCLED PARALLEL
29b8 CIRCLED REVERSE SOLIDUS
29b9 CIRCLED PERPENDICULAR
29ba CIRCLE DIVIDED BY HORIZONTAL BAR AND TOP HALF DIVIDED BY VERTICAL BAR
29bb CIRCLE WITH SUPERIMPOSED X
29bc CIRCLED ANTICLOCKWISE-ROTATED DIVISION SIGN
29bd UP ARROW THROUGH CIRCLE
29be CIRCLED WHITE BULLET
29bf CIRCLED BULLET
29c0 CIRCLED LESS-THAN
29c1 CIRCLED GREATER-THAN
29c2 CIRCLE WITH SMALL CIRCLE TO THE RIGHT
29c3 CIRCLE WITH TWO HORIZONTAL STROKES TO THE RIGHT
29c4 SQUARED RISING DIAGONAL SLASH
29c5 SQUARED FALLING DIAGONAL SLASH
29c6 SQUARED ASTERISK
29c7 SQUARED SMALL CIRCLE
29c8 SQUARED SQUARE
29c9 TWO JOINED SQUARES
29ca TRIANGLE WITH DOT ABOVE
29cb TRIANGLE WITH UNDERBAR
29cc S IN TRIANGLE
29cd TRIANGLE WITH SERIFS AT BOTTOM
29ce RIGHT TRIANGLE ABOVE LEFT TRIANGLE
29cf LEFT TRIANGLE BESIDE VERTICAL BAR
29d0 VERTICAL BAR BESIDE RIGHT TRIANGLE
29d1 BOWTIE WITH LEFT HALF BLACK
29d2 BOWTIE WITH RIGHT HALF BLACK
29d3 BLACK BOWTIE
29d4 TIMES WITH LEFT HALF BLACK
29d5 TIMES WITH RIGHT HALF BLACK
29d6 WHITE HOURGLASS
29d7 BLACK HOURGLASS
29d8 LEFT WIGGLY FENCE
29d9 RIGHT WIGGLY FENCE
29da LEFT DOUBLE WIGGLY FENCE
29db RIGHT DOUBLE WIGGLY FENCE
29dc INCOMPLETE INFINITY
29dd TIE OVER INFINITY
29de INFINITY NEGATED WITH VERTICAL BAR
29df DOUBLE-ENDED MULTIMAP
29e0 SQUARE WITH CONTOURED OUTLINE
29e1 INCREASES AS
29e2 SHUFFLE PRODUCT
29e3 EQUALS SIGN AND SLANTED PARALLEL
29e4 EQUALS SIGN AND SLANTED PARALLEL WITH TILDE ABOVE
29e5 IDENTICAL TO AND SLANTED PARALLEL
29e6 GLEICH STARK
29e7 THERMODYNAMIC"

/-- Names, part 32: a number in hexadecimal and a name on each line. -/
def characterNames32 : String :=
  "29e8 DOWN-POINTING TRIANGLE WITH LEFT HALF BLACK
29e9 DOWN-POINTING TRIANGLE WITH RIGHT HALF BLACK
29ea BLACK DIAMOND WITH DOWN ARROW
29eb BLACK LOZENGE
29ec WHITE CIRCLE WITH DOWN ARROW
29ed BLACK CIRCLE WITH DOWN ARROW
29ee ERROR-BARRED WHITE SQUARE
29ef ERROR-BARRED BLACK SQUARE
29f0 ERROR-BARRED WHITE DIAMOND
29f1 ERROR-BARRED BLACK DIAMOND
29f2 ERROR-BARRED WHITE CIRCLE
29f3 ERROR-BARRED BLACK CIRCLE
29f4 RULE-DELAYED
29f5 REVERSE SOLIDUS OPERATOR
29f6 SOLIDUS WITH OVERBAR
29f7 REVERSE SOLIDUS WITH HORIZONTAL STROKE
29f8 BIG SOLIDUS
29f9 BIG REVERSE SOLIDUS
29fa DOUBLE PLUS
29fb TRIPLE PLUS
29fc LEFT-POINTING CURVED ANGLE BRACKET
29fd RIGHT-POINTING CURVED ANGLE BRACKET
29fe TINY
29ff MINY
3000 IDEOGRAPHIC SPACE
3001 IDEOGRAPHIC COMMA
3002 IDEOGRAPHIC FULL STOP
3003 DITTO MARK
3004 JAPANESE INDUSTRIAL STANDARD SYMBOL
3005 IDEOGRAPHIC ITERATION MARK
3006 IDEOGRAPHIC CLOSING MARK
3007 IDEOGRAPHIC NUMBER ZERO
3008 LEFT ANGLE BRACKET
3009 RIGHT ANGLE BRACKET
300a LEFT DOUBLE ANGLE BRACKET
300b RIGHT DOUBLE ANGLE BRACKET
300c LEFT CORNER BRACKET
300d RIGHT CORNER BRACKET
300e LEFT WHITE CORNER BRACKET
300f RIGHT WHITE CORNER BRACKET
3010 LEFT BLACK LENTICULAR BRACKET
3011 RIGHT BLACK LENTICULAR BRACKET
3012 POSTAL MARK
3013 GETA MARK
3014 LEFT TORTOISE SHELL BRACKET
3015 RIGHT TORTOISE SHELL BRACKET
3016 LEFT WHITE LENTICULAR BRACKET
3017 RIGHT WHITE LENTICULAR BRACKET
3018 LEFT WHITE TORTOISE SHELL BRACKET
3019 RIGHT WHITE TORTOISE SHELL BRACKET
301a LEFT WHITE SQUARE BRACKET
301b RIGHT WHITE SQUARE BRACKET
301c WAVE DASH
301d REVERSED DOUBLE PRIME QUOTATION MARK
301e DOUBLE PRIME QUOTATION MARK
301f LOW DOUBLE PRIME QUOTATION MARK
3020 POSTAL MARK FACE
3021 HANGZHOU NUMERAL ONE
3022 HANGZHOU NUMERAL TWO
3023 HANGZHOU NUMERAL THREE
3024 HANGZHOU NUMERAL FOUR
3025 HANGZHOU NUMERAL FIVE
3026 HANGZHOU NUMERAL SIX
3027 HANGZHOU NUMERAL SEVEN
3028 HANGZHOU NUMERAL EIGHT
3029 HANGZHOU NUMERAL NINE
302a IDEOGRAPHIC LEVEL TONE MARK
302b IDEOGRAPHIC RISING TONE MARK
302c IDEOGRAPHIC DEPARTING TONE MARK
302d IDEOGRAPHIC ENTERING TONE MARK
302e HANGUL SINGLE DOT TONE MARK
302f HANGUL DOUBLE DOT TONE MARK
3030 WAVY DASH
3031 VERTICAL KANA REPEAT MARK
3032 VERTICAL KANA REPEAT WITH VOICED SOUND MARK
3033 VERTICAL KANA REPEAT MARK UPPER HALF
3034 VERTICAL KANA REPEAT WITH VOICED SOUND MARK UPPER HALF
3035 VERTICAL KANA REPEAT MARK LOWER HALF
3036 CIRCLED POSTAL MARK
3037 IDEOGRAPHIC TELEGRAPH LINE FEED SEPARATOR SYMBOL
3038 HANGZHOU NUMERAL TEN
3039 HANGZHOU NUMERAL TWENTY
303a HANGZHOU NUMERAL THIRTY
303b VERTICAL IDEOGRAPHIC ITERATION MARK
303c MASU MARK
303d PART ALTERNATION MARK
303e IDEOGRAPHIC VARIATION INDICATOR
303f IDEOGRAPHIC HALF FILL SPACE
3041 HIRAGANA LETTER SMALL A
3042 HIRAGANA LETTER A
3043 HIRAGANA LETTER SMALL I
3044 HIRAGANA LETTER I
3045 HIRAGANA LETTER SMALL U
3046 HIRAGANA LETTER U
3047 HIRAGANA LETTER SMALL E
3048 HIRAGANA LETTER E
3049 HIRAGANA LETTER SMALL O
304a HIRAGANA LETTER O
304b HIRAGANA LETTER KA
304c HIRAGANA LETTER GA
304d HIRAGANA LETTER KI
304e HIRAGANA LETTER GI
304f HIRAGANA LETTER KU
3050 HIRAGANA LETTER GU
3051 HIRAGANA LETTER KE
3052 HIRAGANA LETTER GE
3053 HIRAGANA LETTER KO
3054 HIRAGANA LETTER GO
3055 HIRAGANA LETTER SA
3056 HIRAGANA LETTER ZA
3057 HIRAGANA LETTER SI
3058 HIRAGANA LETTER ZI
3059 HIRAGANA LETTER SU
305a HIRAGANA LETTER ZU
305b HIRAGANA LETTER SE
305c HIRAGANA LETTER ZE
305d HIRAGANA LETTER SO
305e HIRAGANA LETTER ZO
305f HIRAGANA LETTER TA
3060 HIRAGANA LETTER DA
3061 HIRAGANA LETTER TI
3062 HIRAGANA LETTER DI
3063 HIRAGANA LETTER SMALL TU
3064 HIRAGANA LETTER TU
3065 HIRAGANA LETTER DU
3066 HIRAGANA LETTER TE
3067 HIRAGANA LETTER DE
3068 HIRAGANA LETTER TO
3069 HIRAGANA LETTER DO
306a HIRAGANA LETTER NA
306b HIRAGANA LETTER NI
306c HIRAGANA LETTER NU
306d HIRAGANA LETTER NE
306e HIRAGANA LETTER NO
306f HIRAGANA LETTER HA
3070 HIRAGANA LETTER BA
3071 HIRAGANA LETTER PA
3072 HIRAGANA LETTER HI
3073 HIRAGANA LETTER BI
3074 HIRAGANA LETTER PI
3075 HIRAGANA LETTER HU"

/-- Names, part 33: a number in hexadecimal and a name on each line. -/
def characterNames33 : String :=
  "3076 HIRAGANA LETTER BU
3077 HIRAGANA LETTER PU
3078 HIRAGANA LETTER HE
3079 HIRAGANA LETTER BE
307a HIRAGANA LETTER PE
307b HIRAGANA LETTER HO
307c HIRAGANA LETTER BO
307d HIRAGANA LETTER PO
307e HIRAGANA LETTER MA
307f HIRAGANA LETTER MI
3080 HIRAGANA LETTER MU
3081 HIRAGANA LETTER ME
3082 HIRAGANA LETTER MO
3083 HIRAGANA LETTER SMALL YA
3084 HIRAGANA LETTER YA
3085 HIRAGANA LETTER SMALL YU
3086 HIRAGANA LETTER YU
3087 HIRAGANA LETTER SMALL YO
3088 HIRAGANA LETTER YO
3089 HIRAGANA LETTER RA
308a HIRAGANA LETTER RI
308b HIRAGANA LETTER RU
308c HIRAGANA LETTER RE
308d HIRAGANA LETTER RO
308e HIRAGANA LETTER SMALL WA
308f HIRAGANA LETTER WA
3090 HIRAGANA LETTER WI
3091 HIRAGANA LETTER WE
3092 HIRAGANA LETTER WO
3093 HIRAGANA LETTER N
3094 HIRAGANA LETTER VU
3095 HIRAGANA LETTER SMALL KA
3096 HIRAGANA LETTER SMALL KE
3099 COMBINING KATAKANA-HIRAGANA VOICED SOUND MARK
309a COMBINING KATAKANA-HIRAGANA SEMI-VOICED SOUND MARK
309b KATAKANA-HIRAGANA VOICED SOUND MARK
309c KATAKANA-HIRAGANA SEMI-VOICED SOUND MARK
309d HIRAGANA ITERATION MARK
309e HIRAGANA VOICED ITERATION MARK
309f HIRAGANA DIGRAPH YORI
30a0 KATAKANA-HIRAGANA DOUBLE HYPHEN
30a1 KATAKANA LETTER SMALL A
30a2 KATAKANA LETTER A
30a3 KATAKANA LETTER SMALL I
30a4 KATAKANA LETTER I
30a5 KATAKANA LETTER SMALL U
30a6 KATAKANA LETTER U
30a7 KATAKANA LETTER SMALL E
30a8 KATAKANA LETTER E
30a9 KATAKANA LETTER SMALL O
30aa KATAKANA LETTER O
30ab KATAKANA LETTER KA
30ac KATAKANA LETTER GA
30ad KATAKANA LETTER KI
30ae KATAKANA LETTER GI
30af KATAKANA LETTER KU
30b0 KATAKANA LETTER GU
30b1 KATAKANA LETTER KE
30b2 KATAKANA LETTER GE
30b3 KATAKANA LETTER KO
30b4 KATAKANA LETTER GO
30b5 KATAKANA LETTER SA
30b6 KATAKANA LETTER ZA
30b7 KATAKANA LETTER SI
30b8 KATAKANA LETTER ZI
30b9 KATAKANA LETTER SU
30ba KATAKANA LETTER ZU
30bb KATAKANA LETTER SE
30bc KATAKANA LETTER ZE
30bd KATAKANA LETTER SO
30be KATAKANA LETTER ZO
30bf KATAKANA LETTER TA
30c0 KATAKANA LETTER DA
30c1 KATAKANA LETTER TI
30c2 KATAKANA LETTER DI
30c3 KATAKANA LETTER SMALL TU
30c4 KATAKANA LETTER TU
30c5 KATAKANA LETTER DU
30c6 KATAKANA LETTER TE
30c7 KATAKANA LETTER DE
30c8 KATAKANA LETTER TO
30c9 KATAKANA LETTER DO
30ca KATAKANA LETTER NA
30cb KATAKANA LETTER NI
30cc KATAKANA LETTER NU
30cd KATAKANA LETTER NE
30ce KATAKANA LETTER NO
30cf KATAKANA LETTER HA
30d0 KATAKANA LETTER BA
30d1 KATAKANA LETTER PA
30d2 KATAKANA LETTER HI
30d3 KATAKANA LETTER BI
30d4 KATAKANA LETTER PI
30d5 KATAKANA LETTER HU
30d6 KATAKANA LETTER BU
30d7 KATAKANA LETTER PU
30d8 KATAKANA LETTER HE
30d9 KATAKANA LETTER BE
30da KATAKANA LETTER PE
30db KATAKANA LETTER HO
30dc KATAKANA LETTER BO
30dd KATAKANA LETTER PO
30de KATAKANA LETTER MA
30df KATAKANA LETTER MI
30e0 KATAKANA LETTER MU
30e1 KATAKANA LETTER ME
30e2 KATAKANA LETTER MO
30e3 KATAKANA LETTER SMALL YA
30e4 KATAKANA LETTER YA
30e5 KATAKANA LETTER SMALL YU
30e6 KATAKANA LETTER YU
30e7 KATAKANA LETTER SMALL YO
30e8 KATAKANA LETTER YO
30e9 KATAKANA LETTER RA
30ea KATAKANA LETTER RI
30eb KATAKANA LETTER RU
30ec KATAKANA LETTER RE
30ed KATAKANA LETTER RO
30ee KATAKANA LETTER SMALL WA
30ef KATAKANA LETTER WA
30f0 KATAKANA LETTER WI
30f1 KATAKANA LETTER WE
30f2 KATAKANA LETTER WO
30f3 KATAKANA LETTER N
30f4 KATAKANA LETTER VU
30f5 KATAKANA LETTER SMALL KA
30f6 KATAKANA LETTER SMALL KE
30f7 KATAKANA LETTER VA
30f8 KATAKANA LETTER VI
30f9 KATAKANA LETTER VE
30fa KATAKANA LETTER VO
30fb KATAKANA MIDDLE DOT
30fc KATAKANA-HIRAGANA PROLONGED SOUND MARK
30fd KATAKANA ITERATION MARK
30fe KATAKANA VOICED ITERATION MARK
30ff KATAKANA DIGRAPH KOTO
ff01 FULLWIDTH EXCLAMATION MARK
ff02 FULLWIDTH QUOTATION MARK
ff03 FULLWIDTH NUMBER SIGN
ff04 FULLWIDTH DOLLAR SIGN
ff05 FULLWIDTH PERCENT SIGN
ff06 FULLWIDTH AMPERSAND
ff07 FULLWIDTH APOSTROPHE
ff08 FULLWIDTH LEFT PARENTHESIS
ff09 FULLWIDTH RIGHT PARENTHESIS
ff0a FULLWIDTH ASTERISK
ff0b FULLWIDTH PLUS SIGN
ff0c FULLWIDTH COMMA
ff0d FULLWIDTH HYPHEN-MINUS
ff0e FULLWIDTH FULL STOP
ff0f FULLWIDTH SOLIDUS
ff10 FULLWIDTH DIGIT ZERO
ff11 FULLWIDTH DIGIT ONE"

/-- Names, part 34: a number in hexadecimal and a name on each line. -/
def characterNames34 : String :=
  "ff12 FULLWIDTH DIGIT TWO
ff13 FULLWIDTH DIGIT THREE
ff14 FULLWIDTH DIGIT FOUR
ff15 FULLWIDTH DIGIT FIVE
ff16 FULLWIDTH DIGIT SIX
ff17 FULLWIDTH DIGIT SEVEN
ff18 FULLWIDTH DIGIT EIGHT
ff19 FULLWIDTH DIGIT NINE
ff1a FULLWIDTH COLON
ff1b FULLWIDTH SEMICOLON
ff1c FULLWIDTH LESS-THAN SIGN
ff1d FULLWIDTH EQUALS SIGN
ff1e FULLWIDTH GREATER-THAN SIGN
ff1f FULLWIDTH QUESTION MARK
ff20 FULLWIDTH COMMERCIAL AT
ff21 FULLWIDTH LATIN CAPITAL LETTER A
ff22 FULLWIDTH LATIN CAPITAL LETTER B
ff23 FULLWIDTH LATIN CAPITAL LETTER C
ff24 FULLWIDTH LATIN CAPITAL LETTER D
ff25 FULLWIDTH LATIN CAPITAL LETTER E
ff26 FULLWIDTH LATIN CAPITAL LETTER F
ff27 FULLWIDTH LATIN CAPITAL LETTER G
ff28 FULLWIDTH LATIN CAPITAL LETTER H
ff29 FULLWIDTH LATIN CAPITAL LETTER I
ff2a FULLWIDTH LATIN CAPITAL LETTER J
ff2b FULLWIDTH LATIN CAPITAL LETTER K
ff2c FULLWIDTH LATIN CAPITAL LETTER L
ff2d FULLWIDTH LATIN CAPITAL LETTER M
ff2e FULLWIDTH LATIN CAPITAL LETTER N
ff2f FULLWIDTH LATIN CAPITAL LETTER O
ff30 FULLWIDTH LATIN CAPITAL LETTER P
ff31 FULLWIDTH LATIN CAPITAL LETTER Q
ff32 FULLWIDTH LATIN CAPITAL LETTER R
ff33 FULLWIDTH LATIN CAPITAL LETTER S
ff34 FULLWIDTH LATIN CAPITAL LETTER T
ff35 FULLWIDTH LATIN CAPITAL LETTER U
ff36 FULLWIDTH LATIN CAPITAL LETTER V
ff37 FULLWIDTH LATIN CAPITAL LETTER W
ff38 FULLWIDTH LATIN CAPITAL LETTER X
ff39 FULLWIDTH LATIN CAPITAL LETTER Y
ff3a FULLWIDTH LATIN CAPITAL LETTER Z
ff3b FULLWIDTH LEFT SQUARE BRACKET
ff3c FULLWIDTH REVERSE SOLIDUS
ff3d FULLWIDTH RIGHT SQUARE BRACKET
ff3e FULLWIDTH CIRCUMFLEX ACCENT
ff3f FULLWIDTH LOW LINE
ff40 FULLWIDTH GRAVE ACCENT
ff41 FULLWIDTH LATIN SMALL LETTER A
ff42 FULLWIDTH LATIN SMALL LETTER B
ff43 FULLWIDTH LATIN SMALL LETTER C
ff44 FULLWIDTH LATIN SMALL LETTER D
ff45 FULLWIDTH LATIN SMALL LETTER E
ff46 FULLWIDTH LATIN SMALL LETTER F
ff47 FULLWIDTH LATIN SMALL LETTER G
ff48 FULLWIDTH LATIN SMALL LETTER H
ff49 FULLWIDTH LATIN SMALL LETTER I
ff4a FULLWIDTH LATIN SMALL LETTER J
ff4b FULLWIDTH LATIN SMALL LETTER K
ff4c FULLWIDTH LATIN SMALL LETTER L
ff4d FULLWIDTH LATIN SMALL LETTER M
ff4e FULLWIDTH LATIN SMALL LETTER N
ff4f FULLWIDTH LATIN SMALL LETTER O
ff50 FULLWIDTH LATIN SMALL LETTER P
ff51 FULLWIDTH LATIN SMALL LETTER Q
ff52 FULLWIDTH LATIN SMALL LETTER R
ff53 FULLWIDTH LATIN SMALL LETTER S
ff54 FULLWIDTH LATIN SMALL LETTER T
ff55 FULLWIDTH LATIN SMALL LETTER U
ff56 FULLWIDTH LATIN SMALL LETTER V
ff57 FULLWIDTH LATIN SMALL LETTER W
ff58 FULLWIDTH LATIN SMALL LETTER X
ff59 FULLWIDTH LATIN SMALL LETTER Y
ff5a FULLWIDTH LATIN SMALL LETTER Z
ff5b FULLWIDTH LEFT CURLY BRACKET
ff5c FULLWIDTH VERTICAL LINE
ff5d FULLWIDTH RIGHT CURLY BRACKET
ff5e FULLWIDTH TILDE
fffc OBJECT REPLACEMENT CHARACTER
fffd REPLACEMENT CHARACTER
feff ZERO WIDTH NO-BREAK SPACE
1f300 CYCLONE
1f301 FOGGY
1f302 CLOSED UMBRELLA
1f303 NIGHT WITH STARS
1f304 SUNRISE OVER MOUNTAINS
1f305 SUNRISE
1f306 CITYSCAPE AT DUSK
1f307 SUNSET OVER BUILDINGS
1f308 RAINBOW
1f309 BRIDGE AT NIGHT
1f30a WATER WAVE
1f30b VOLCANO
1f30c MILKY WAY
1f30d EARTH GLOBE EUROPE-AFRICA
1f30e EARTH GLOBE AMERICAS
1f30f EARTH GLOBE ASIA-AUSTRALIA
1f310 GLOBE WITH MERIDIANS
1f311 NEW MOON SYMBOL
1f312 WAXING CRESCENT MOON SYMBOL
1f313 FIRST QUARTER MOON SYMBOL
1f314 WAXING GIBBOUS MOON SYMBOL
1f315 FULL MOON SYMBOL
1f316 WANING GIBBOUS MOON SYMBOL
1f317 LAST QUARTER MOON SYMBOL
1f318 WANING CRESCENT MOON SYMBOL
1f319 CRESCENT MOON
1f31a NEW MOON WITH FACE
1f31b FIRST QUARTER MOON WITH FACE
1f31c LAST QUARTER MOON WITH FACE
1f31d FULL MOON WITH FACE
1f31e SUN WITH FACE
1f31f GLOWING STAR
1f320 SHOOTING STAR
1f321 THERMOMETER
1f322 BLACK DROPLET
1f323 WHITE SUN
1f324 WHITE SUN WITH SMALL CLOUD
1f325 WHITE SUN BEHIND CLOUD
1f326 WHITE SUN BEHIND CLOUD WITH RAIN
1f327 CLOUD WITH RAIN
1f328 CLOUD WITH SNOW
1f329 CLOUD WITH LIGHTNING
1f32a CLOUD WITH TORNADO
1f32b FOG
1f32c WIND BLOWING FACE
1f32d HOT DOG
1f32e TACO
1f32f BURRITO
1f330 CHESTNUT
1f331 SEEDLING
1f332 EVERGREEN TREE
1f333 DECIDUOUS TREE
1f334 PALM TREE
1f335 CACTUS
1f336 HOT PEPPER
1f337 TULIP"

/-- Names, part 35: a number in hexadecimal and a name on each line. -/
def characterNames35 : String :=
  "1f338 CHERRY BLOSSOM
1f339 ROSE
1f33a HIBISCUS
1f33b SUNFLOWER
1f33c BLOSSOM
1f33d EAR OF MAIZE
1f33e EAR OF RICE
1f33f HERB
1f340 FOUR LEAF CLOVER
1f341 MAPLE LEAF
1f342 FALLEN LEAF
1f343 LEAF FLUTTERING IN WIND
1f344 MUSHROOM
1f345 TOMATO
1f346 AUBERGINE
1f347 GRAPES
1f348 MELON
1f349 WATERMELON
1f34a TANGERINE
1f34b LEMON
1f34c BANANA
1f34d PINEAPPLE
1f34e RED APPLE
1f34f GREEN APPLE
1f350 PEAR
1f351 PEACH
1f352 CHERRIES
1f353 STRAWBERRY
1f354 HAMBURGER
1f355 SLICE OF PIZZA
1f356 MEAT ON BONE
1f357 POULTRY LEG
1f358 RICE CRACKER
1f359 RICE BALL
1f35a COOKED RICE
1f35b CURRY AND RICE
1f35c STEAMING BOWL
1f35d SPAGHETTI
1f35e BREAD
1f35f FRENCH FRIES
1f360 ROASTED SWEET POTATO
1f361 DANGO
1f362 ODEN
1f363 SUSHI
1f364 FRIED SHRIMP
1f365 FISH CAKE WITH SWIRL DESIGN
1f366 SOFT ICE CREAM
1f367 SHAVED ICE
1f368 ICE CREAM
1f369 DOUGHNUT
1f36a COOKIE
1f36b CHOCOLATE BAR
1f36c CANDY
1f36d LOLLIPOP
1f36e CUSTARD
1f36f HONEY POT
1f370 SHORTCAKE
1f371 BENTO BOX
1f372 POT OF FOOD
1f373 COOKING
1f374 FORK AND KNIFE
1f375 TEACUP WITHOUT HANDLE
1f376 SAKE BOTTLE AND CUP
1f377 WINE GLASS
1f378 COCKTAIL GLASS
1f379 TROPICAL DRINK
1f37a BEER MUG
1f37b CLINKING BEER MUGS
1f37c BABY BOTTLE
1f37d FORK AND KNIFE WITH PLATE
1f37e BOTTLE WITH POPPING CORK
1f37f POPCORN
1f380 RIBBON
1f381 WRAPPED PRESENT
1f382 BIRTHDAY CAKE
1f383 JACK-O-LANTERN
1f384 CHRISTMAS TREE
1f385 FATHER CHRISTMAS
1f386 FIREWORKS
1f387 FIREWORK SPARKLER
1f388 BALLOON
1f389 PARTY POPPER
1f38a CONFETTI BALL
1f38b TANABATA TREE
1f38c CROSSED FLAGS
1f38d PINE DECORATION
1f38e JAPANESE DOLLS
1f38f CARP STREAMER
1f390 WIND CHIME
1f391 MOON VIEWING CEREMONY
1f392 SCHOOL SATCHEL
1f393 GRADUATION CAP
1f394 HEART WITH TIP ON THE LEFT
1f395 BOUQUET OF FLOWERS
1f396 MILITARY MEDAL
1f397 REMINDER RIBBON
1f398 MUSICAL KEYBOARD WITH JACKS
1f399 STUDIO MICROPHONE
1f39a LEVEL SLIDER
1f39b CONTROL KNOBS
1f39c BEAMED ASCENDING MUSICAL NOTES
1f39d BEAMED DESCENDING MUSICAL NOTES
1f39e FILM FRAMES
1f39f ADMISSION TICKETS
1f3a0 CAROUSEL HORSE
1f3a1 FERRIS WHEEL
1f3a2 ROLLER COASTER
1f3a3 FISHING POLE AND FISH
1f3a4 MICROPHONE
1f3a5 MOVIE CAMERA
1f3a6 CINEMA
1f3a7 HEADPHONE
1f3a8 ARTIST PALETTE
1f3a9 TOP HAT
1f3aa CIRCUS TENT
1f3ab TICKET
1f3ac CLAPPER BOARD
1f3ad PERFORMING ARTS
1f3ae VIDEO GAME
1f3af DIRECT HIT
1f3b0 SLOT MACHINE
1f3b1 BILLIARDS
1f3b2 GAME DIE
1f3b3 BOWLING
1f3b4 FLOWER PLAYING CARDS
1f3b5 MUSICAL NOTE
1f3b6 MULTIPLE MUSICAL NOTES
1f3b7 SAXOPHONE
1f3b8 GUITAR
1f3b9 MUSICAL KEYBOARD
1f3ba TRUMPET
1f3bb VIOLIN
1f3bc MUSICAL SCORE
1f3bd RUNNING SHIRT WITH SASH
1f3be TENNIS RACQUET AND BALL
1f3bf SKI AND SKI BOOT
1f3c0 BASKETBALL AND HOOP
1f3c1 CHEQUERED FLAG
1f3c2 SNOWBOARDER
1f3c3 RUNNER
1f3c4 SURFER
1f3c5 SPORTS MEDAL
1f3c6 TROPHY
1f3c7 HORSE RACING
1f3c8 AMERICAN FOOTBALL
1f3c9 RUGBY FOOTBALL
1f3ca SWIMMER
1f3cb WEIGHT LIFTER
1f3cc GOLFER
1f3cd RACING MOTORCYCLE
1f3ce RACING CAR
1f3cf CRICKET BAT AND BALL
1f3d0 VOLLEYBALL
1f3d1 FIELD HOCKEY STICK AND BALL
1f3d2 ICE HOCKEY STICK AND PUCK
1f3d3 TABLE TENNIS PADDLE AND BALL
1f3d4 SNOW CAPPED MOUNTAIN
1f3d5 CAMPING
1f3d6 BEACH WITH UMBRELLA
1f3d7 BUILDING CONSTRUCTION
1f3d8 HOUSE BUILDINGS
1f3d9 CITYSCAPE
1f3da DERELICT HOUSE BUILDING
1f3db CLASSICAL BUILDING
1f3dc DESERT
1f3dd DESERT ISLAND
1f3de NATIONAL PARK
1f3df STADIUM
1f3e0 HOUSE BUILDING
1f3e1 HOUSE WITH GARDEN
1f3e2 OFFICE BUILDING
1f3e3 JAPANESE POST OFFICE
1f3e4 EUROPEAN POST OFFICE
1f3e5 HOSPITAL
1f3e6 BANK
1f3e7 AUTOMATED TELLER MACHINE
1f3e8 HOTEL
1f3e9 LOVE HOTEL
1f3ea CONVENIENCE STORE
1f3eb SCHOOL
1f3ec DEPARTMENT STORE
1f3ed FACTORY
1f3ee IZAKAYA LANTERN
1f3ef JAPANESE CASTLE
1f3f0 EUROPEAN CASTLE
1f3f1 WHITE PENNANT
1f3f2 BLACK PENNANT
1f3f3 WAVING WHITE FLAG
1f3f4 WAVING BLACK FLAG
1f3f5 ROSETTE
1f3f6 BLACK ROSETTE
1f3f7 LABEL
1f3f8 BADMINTON RACQUET AND SHUTTLECOCK
1f3f9 BOW AND ARROW
1f3fa AMPHORA
1f3fb EMOJI MODIFIER FITZPATRICK TYPE-1-2
1f3fc EMOJI MODIFIER FITZPATRICK TYPE-3
1f3fd EMOJI MODIFIER FITZPATRICK TYPE-4
1f3fe EMOJI MODIFIER FITZPATRICK TYPE-5"

/-- Names, part 36: a number in hexadecimal and a name on each line. -/
def characterNames36 : String :=
  "1f3ff EMOJI MODIFIER FITZPATRICK TYPE-6
1f400 RAT
1f401 MOUSE
1f402 OX
1f403 WATER BUFFALO
1f404 COW
1f405 TIGER
1f406 LEOPARD
1f407 RABBIT
1f408 CAT
1f409 DRAGON
1f40a CROCODILE
1f40b WHALE
1f40c SNAIL
1f40d SNAKE
1f40e HORSE
1f40f RAM
1f410 GOAT
1f411 SHEEP
1f412 MONKEY
1f413 ROOSTER
1f414 CHICKEN
1f415 DOG
1f416 PIG
1f417 BOAR
1f418 ELEPHANT
1f419 OCTOPUS
1f41a SPIRAL SHELL
1f41b BUG
1f41c ANT
1f41d HONEYBEE
1f41e LADY BEETLE
1f41f FISH
1f420 TROPICAL FISH
1f421 BLOWFISH
1f422 TURTLE
1f423 HATCHING CHICK
1f424 BABY CHICK
1f425 FRONT-FACING BABY CHICK
1f426 BIRD
1f427 PENGUIN
1f428 KOALA
1f429 POODLE
1f42a DROMEDARY CAMEL
1f42b BACTRIAN CAMEL
1f42c DOLPHIN
1f42d MOUSE FACE
1f42e COW FACE
1f42f TIGER FACE
1f430 RABBIT FACE
1f431 CAT FACE
1f432 DRAGON FACE
1f433 SPOUTING WHALE
1f434 HORSE FACE
1f435 MONKEY FACE
1f436 DOG FACE
1f437 PIG FACE
1f438 FROG FACE
1f439 HAMSTER FACE
1f43a WOLF FACE
1f43b BEAR FACE
1f43c PANDA FACE
1f43d PIG NOSE
1f43e PAW PRINTS
1f43f CHIPMUNK
1f440 EYES
1f441 EYE
1f442 EAR
1f443 NOSE
1f444 MOUTH
1f445 TONGUE
1f446 WHITE UP POINTING BACKHAND INDEX
1f447 WHITE DOWN POINTING BACKHAND INDEX
1f448 WHITE LEFT POINTING BACKHAND INDEX
1f449 WHITE RIGHT POINTING BACKHAND INDEX
1f44a FISTED HAND SIGN
1f44b WAVING HAND SIGN
1f44c OK HAND SIGN
1f44d THUMBS UP SIGN
1f44e THUMBS DOWN SIGN
1f44f CLAPPING HANDS SIGN
1f450 OPEN HANDS SIGN
1f451 CROWN
1f452 WOMANS HAT
1f453 EYEGLASSES
1f454 NECKTIE
1f455 T-SHIRT
1f456 JEANS
1f457 DRESS
1f458 KIMONO
1f459 BIKINI
1f45a WOMANS CLOTHES
1f45b PURSE
1f45c HANDBAG
1f45d POUCH
1f45e MANS SHOE
1f45f ATHLETIC SHOE
1f460 HIGH-HEELED SHOE
1f461 WOMANS SANDAL
1f462 WOMANS BOOTS
1f463 FOOTPRINTS
1f464 BUST IN SILHOUETTE
1f465 BUSTS IN SILHOUETTE
1f466 BOY
1f467 GIRL
1f468 MAN
1f469 WOMAN
1f46a FAMILY
1f46b MAN AND WOMAN HOLDING HANDS
1f46c TWO MEN HOLDING HANDS
1f46d TWO WOMEN HOLDING HANDS
1f46e POLICE OFFICER
1f46f WOMAN WITH BUNNY EARS
1f470 BRIDE WITH VEIL
1f471 PERSON WITH BLOND HAIR
1f472 MAN WITH GUA PI MAO
1f473 MAN WITH TURBAN
1f474 OLDER MAN
1f475 OLDER WOMAN
1f476 BABY
1f477 CONSTRUCTION WORKER
1f478 PRINCESS
1f479 JAPANESE OGRE
1f47a JAPANESE GOBLIN
1f47b GHOST
1f47c BABY ANGEL
1f47d EXTRATERRESTRIAL ALIEN
1f47e ALIEN MONSTER
1f47f IMP
1f480 SKULL
1f481 INFORMATION DESK PERSON
1f482 GUARDSMAN
1f483 DANCER
1f484 LIPSTICK
1f485 NAIL POLISH
1f486 FACE MASSAGE
1f487 HAIRCUT
1f488 BARBER POLE
1f489 SYRINGE
1f48a PILL
1f48b KISS MARK
1f48c LOVE LETTER
1f48d RING
1f48e GEM STONE
1f48f KISS
1f490 BOUQUET
1f491 COUPLE WITH HEART
1f492 WEDDING
1f493 BEATING HEART
1f494 BROKEN HEART
1f495 TWO HEARTS
1f496 SPARKLING HEART
1f497 GROWING HEART
1f498 HEART WITH ARROW
1f499 BLUE HEART
1f49a GREEN HEART
1f49b YELLOW HEART
1f49c PURPLE HEART
1f49d HEART WITH RIBBON
1f49e REVOLVING HEARTS
1f49f HEART DECORATION
1f4a0 DIAMOND SHAPE WITH A DOT INSIDE
1f4a1 ELECTRIC LIGHT BULB
1f4a2 ANGER SYMBOL
1f4a3 BOMB
1f4a4 SLEEPING SYMBOL
1f4a5 COLLISION SYMBOL
1f4a6 SPLASHING SWEAT SYMBOL
1f4a7 DROPLET
1f4a8 DASH SYMBOL
1f4a9 PILE OF POO
1f4aa FLEXED BICEPS
1f4ab DIZZY SYMBOL
1f4ac SPEECH BALLOON
1f4ad THOUGHT BALLOON
1f4ae WHITE FLOWER
1f4af HUNDRED POINTS SYMBOL
1f4b0 MONEY BAG
1f4b1 CURRENCY EXCHANGE
1f4b2 HEAVY DOLLAR SIGN
1f4b3 CREDIT CARD
1f4b4 BANKNOTE WITH YEN SIGN
1f4b5 BANKNOTE WITH DOLLAR SIGN
1f4b6 BANKNOTE WITH EURO SIGN
1f4b7 BANKNOTE WITH POUND SIGN
1f4b8 MONEY WITH WINGS
1f4b9 CHART WITH UPWARDS TREND AND YEN SIGN
1f4ba SEAT
1f4bb PERSONAL COMPUTER
1f4bc BRIEFCASE
1f4bd MINIDISC
1f4be FLOPPY DISK
1f4bf OPTICAL DISC
1f4c0 DVD
1f4c1 FILE FOLDER
1f4c2 OPEN FILE FOLDER
1f4c3 PAGE WITH CURL
1f4c4 PAGE FACING UP
1f4c5 CALENDAR
1f4c6 TEAR-OFF CALENDAR
1f4c7 CARD INDEX
1f4c8 CHART WITH UPWARDS TREND
1f4c9 CHART WITH DOWNWARDS TREND
1f4ca BAR CHART
1f4cb CLIPBOARD
1f4cc PUSHPIN
1f4cd ROUND PUSHPIN
1f4ce PAPERCLIP
1f4cf STRAIGHT RULER
1f4d0 TRIANGULAR RULER
1f4d1 BOOKMARK TABS
1f4d2 LEDGER
1f4d3 NOTEBOOK
1f4d4 NOTEBOOK WITH DECORATIVE COVER
1f4d5 CLOSED BOOK
1f4d6 OPEN BOOK
1f4d7 GREEN BOOK"

/-- Names, part 37: a number in hexadecimal and a name on each line. -/
def characterNames37 : String :=
  "1f4d8 BLUE BOOK
1f4d9 ORANGE BOOK
1f4da BOOKS
1f4db NAME BADGE
1f4dc SCROLL
1f4dd MEMO
1f4de TELEPHONE RECEIVER
1f4df PAGER
1f4e0 FAX MACHINE
1f4e1 SATELLITE ANTENNA
1f4e2 PUBLIC ADDRESS LOUDSPEAKER
1f4e3 CHEERING MEGAPHONE
1f4e4 OUTBOX TRAY
1f4e5 INBOX TRAY
1f4e6 PACKAGE
1f4e7 E-MAIL SYMBOL
1f4e8 INCOMING ENVELOPE
1f4e9 ENVELOPE WITH DOWNWARDS ARROW ABOVE
1f4ea CLOSED MAILBOX WITH LOWERED FLAG
1f4eb CLOSED MAILBOX WITH RAISED FLAG
1f4ec OPEN MAILBOX WITH RAISED FLAG
1f4ed OPEN MAILBOX WITH LOWERED FLAG
1f4ee POSTBOX
1f4ef POSTAL HORN
1f4f0 NEWSPAPER
1f4f1 MOBILE PHONE
1f4f2 MOBILE PHONE WITH RIGHTWARDS ARROW AT LEFT
1f4f3 VIBRATION MODE
1f4f4 MOBILE PHONE OFF
1f4f5 NO MOBILE PHONES
1f4f6 ANTENNA WITH BARS
1f4f7 CAMERA
1f4f8 CAMERA WITH FLASH
1f4f9 VIDEO CAMERA
1f4fa TELEVISION
1f4fb RADIO
1f4fc VIDEOCASSETTE
1f4fd FILM PROJECTOR
1f4fe PORTABLE STEREO
1f4ff PRAYER BEADS
1f500 TWISTED RIGHTWARDS ARROWS
1f501 CLOCKWISE RIGHTWARDS AND LEFTWARDS OPEN CIRCLE ARROWS
1f502 CLOCKWISE RIGHTWARDS AND LEFTWARDS OPEN CIRCLE ARROWS WITH CIRCLED ONE OVERLAY
1f503 CLOCKWISE DOWNWARDS AND UPWARDS OPEN CIRCLE ARROWS
1f504 ANTICLOCKWISE DOWNWARDS AND UPWARDS OPEN CIRCLE ARROWS
1f505 LOW BRIGHTNESS SYMBOL
1f506 HIGH BRIGHTNESS SYMBOL
1f507 SPEAKER WITH CANCELLATION STROKE
1f508 SPEAKER
1f509 SPEAKER WITH ONE SOUND WAVE
1f50a SPEAKER WITH THREE SOUND WAVES
1f50b BATTERY
1f50c ELECTRIC PLUG
1f50d LEFT-POINTING MAGNIFYING GLASS
1f50e RIGHT-POINTING MAGNIFYING GLASS
1f50f LOCK WITH INK PEN
1f510 CLOSED LOCK WITH KEY
1f511 KEY
1f512 LOCK
1f513 OPEN LOCK
1f514 BELL
1f515 BELL WITH CANCELLATION STROKE
1f516 BOOKMARK
1f517 LINK SYMBOL
1f518 RADIO BUTTON
1f519 BACK WITH LEFTWARDS ARROW ABOVE
1f51a END WITH LEFTWARDS ARROW ABOVE
1f51b ON WITH EXCLAMATION MARK WITH LEFT RIGHT ARROW ABOVE
1f51c SOON WITH RIGHTWARDS ARROW ABOVE
1f51d TOP WITH UPWARDS ARROW ABOVE
1f51e NO ONE UNDER EIGHTEEN SYMBOL
1f51f KEYCAP TEN
1f520 INPUT SYMBOL FOR LATIN CAPITAL LETTERS
1f521 INPUT SYMBOL FOR LATIN SMALL LETTERS
1f522 INPUT SYMBOL FOR NUMBERS
1f523 INPUT SYMBOL FOR SYMBOLS
1f524 INPUT SYMBOL FOR LATIN LETTERS
1f525 FIRE
1f526 ELECTRIC TORCH
1f527 WRENCH
1f528 HAMMER
1f529 NUT AND BOLT
1f52a HOCHO
1f52b PISTOL
1f52c MICROSCOPE
1f52d TELESCOPE
1f52e CRYSTAL BALL
1f52f SIX POINTED STAR WITH MIDDLE DOT
1f530 JAPANESE SYMBOL FOR BEGINNER
1f531 TRIDENT EMBLEM
1f532 BLACK SQUARE BUTTON
1f533 WHITE SQUARE BUTTON
1f534 LARGE RED CIRCLE
1f535 LARGE BLUE CIRCLE
1f536 LARGE ORANGE DIAMOND
1f537 LARGE BLUE DIAMOND
1f538 SMALL ORANGE DIAMOND
1f539 SMALL BLUE DIAMOND
1f53a UP-POINTING RED TRIANGLE
1f53b DOWN-POINTING RED TRIANGLE
1f53c UP-POINTING SMALL RED TRIANGLE
1f53d DOWN-POINTING SMALL RED TRIANGLE
1f53e LOWER RIGHT SHADOWED WHITE CIRCLE
1f53f UPPER RIGHT SHADOWED WHITE CIRCLE
1f540 CIRCLED CROSS POMMEE
1f541 CROSS POMMEE WITH HALF-CIRCLE BELOW
1f542 CROSS POMMEE
1f543 NOTCHED LEFT SEMICIRCLE WITH THREE DOTS
1f544 NOTCHED RIGHT SEMICIRCLE WITH THREE DOTS
1f545 SYMBOL FOR MARKS CHAPTER
1f546 WHITE LATIN CROSS
1f547 HEAVY LATIN CROSS
1f548 CELTIC CROSS
1f549 OM SYMBOL
1f54a DOVE OF PEACE
1f54b KAABA
1f54c MOSQUE
1f54d SYNAGOGUE
1f54e MENORAH WITH NINE BRANCHES
1f54f BOWL OF HYGIEIA
1f550 CLOCK FACE ONE OCLOCK
1f551 CLOCK FACE TWO OCLOCK
1f552 CLOCK FACE THREE OCLOCK
1f553 CLOCK FACE FOUR OCLOCK
1f554 CLOCK FACE FIVE OCLOCK
1f555 CLOCK FACE SIX OCLOCK
1f556 CLOCK FACE SEVEN OCLOCK
1f557 CLOCK FACE EIGHT OCLOCK
1f558 CLOCK FACE NINE OCLOCK
1f559 CLOCK FACE TEN OCLOCK
1f55a CLOCK FACE ELEVEN OCLOCK
1f55b CLOCK FACE TWELVE OCLOCK
1f55c CLOCK FACE ONE-THIRTY
1f55d CLOCK FACE TWO-THIRTY
1f55e CLOCK FACE THREE-THIRTY
1f55f CLOCK FACE FOUR-THIRTY
1f560 CLOCK FACE FIVE-THIRTY
1f561 CLOCK FACE SIX-THIRTY
1f562 CLOCK FACE SEVEN-THIRTY
1f563 CLOCK FACE EIGHT-THIRTY
1f564 CLOCK FACE NINE-THIRTY
1f565 CLOCK FACE TEN-THIRTY
1f566 CLOCK FACE ELEVEN-THIRTY
1f567 CLOCK FACE TWELVE-THIRTY
1f568 RIGHT SPEAKER
1f569 RIGHT SPEAKER WITH ONE SOUND WAVE
1f56a RIGHT SPEAKER WITH THREE SOUND WAVES"

/-- Names, part 38: a number in hexadecimal and a name on each line. -/
def characterNames38 : String :=
  "1f56b BULLHORN
1f56c BULLHORN WITH SOUND WAVES
1f56d RINGING BELL
1f56e BOOK
1f56f CANDLE
1f570 MANTELPIECE CLOCK
1f571 BLACK SKULL AND CROSSBONES
1f572 NO PIRACY
1f573 HOLE
1f574 MAN IN BUSINESS SUIT LEVITATING
1f575 SLEUTH OR SPY
1f576 DARK SUNGLASSES
1f577 SPIDER
1f578 SPIDER WEB
1f579 JOYSTICK
1f57a MAN DANCING
1f57b LEFT HAND TELEPHONE RECEIVER
1f57c TELEPHONE RECEIVER WITH PAGE
1f57d RIGHT HAND TELEPHONE RECEIVER
1f57e WHITE TOUCHTONE TELEPHONE
1f57f BLACK TOUCHTONE TELEPHONE
1f580 TELEPHONE ON TOP OF MODEM
1f581 CLAMSHELL MOBILE PHONE
1f582 BACK OF ENVELOPE
1f583 STAMPED ENVELOPE
1f584 ENVELOPE WITH LIGHTNING
1f585 FLYING ENVELOPE
1f586 PEN OVER STAMPED ENVELOPE
1f587 LINKED PAPERCLIPS
1f588 BLACK PUSHPIN
1f589 LOWER LEFT PENCIL
1f58a LOWER LEFT BALLPOINT PEN
1f58b LOWER LEFT FOUNTAIN PEN
1f58c LOWER LEFT PAINTBRUSH
1f58d LOWER LEFT CRAYON
1f58e LEFT WRITING HAND
1f58f TURNED OK HAND SIGN
1f590 RAISED HAND WITH FINGERS SPLAYED
1f591 REVERSED RAISED HAND WITH FINGERS SPLAYED
1f592 REVERSED THUMBS UP SIGN
1f593 REVERSED THUMBS DOWN SIGN
1f594 REVERSED VICTORY HAND
1f595 REVERSED HAND WITH MIDDLE FINGER EXTENDED
1f596 RAISED HAND WITH PART BETWEEN MIDDLE AND RING FINGERS
1f597 WHITE DOWN POINTING LEFT HAND INDEX
1f598 SIDEWAYS WHITE LEFT POINTING INDEX
1f599 SIDEWAYS WHITE RIGHT POINTING INDEX
1f59a SIDEWAYS BLACK LEFT POINTING INDEX
1f59b SIDEWAYS BLACK RIGHT POINTING INDEX
1f59c BLACK LEFT POINTING BACKHAND INDEX
1f59d BLACK RIGHT POINTING BACKHAND INDEX
1f59e SIDEWAYS WHITE UP POINTING INDEX
1f59f SIDEWAYS WHITE DOWN POINTING INDEX
1f5a0 SIDEWAYS BLACK UP POINTING INDEX
1f5a1 SIDEWAYS BLACK DOWN POINTING INDEX
1f5a2 BLACK UP POINTING BACKHAND INDEX
1f5a3 BLACK DOWN POINTING BACKHAND INDEX
1f5a4 BLACK HEART
1f5a5 DESKTOP COMPUTER
1f5a6 KEYBOARD AND MOUSE
1f5a7 THREE NETWORKED COMPUTERS
1f5a8 PRINTER
1f5a9 POCKET CALCULATOR
1f5aa BLACK HARD SHELL FLOPPY DISK
1f5ab WHITE HARD SHELL FLOPPY DISK
1f5ac SOFT SHELL FLOPPY DISK
1f5ad TAPE CARTRIDGE
1f5ae WIRED KEYBOARD
1f5af ONE BUTTON MOUSE
1f5b0 TWO BUTTON MOUSE
1f5b1 THREE BUTTON MOUSE
1f5b2 TRACKBALL
1f5b3 OLD PERSONAL COMPUTER
1f5b4 HARD DISK
1f5b5 SCREEN
1f5b6 PRINTER ICON
1f5b7 FAX ICON
1f5b8 OPTICAL DISC ICON
1f5b9 DOCUMENT WITH TEXT
1f5ba DOCUMENT WITH TEXT AND PICTURE
1f5bb DOCUMENT WITH PICTURE
1f5bc FRAME WITH PICTURE
1f5bd FRAME WITH TILES
1f5be FRAME WITH AN X
1f5bf BLACK FOLDER
1f5c0 FOLDER
1f5c1 OPEN FOLDER
1f5c2 CARD INDEX DIVIDERS
1f5c3 CARD FILE BOX
1f5c4 FILE CABINET
1f5c5 EMPTY NOTE
1f5c6 EMPTY NOTE PAGE
1f5c7 EMPTY NOTE PAD
1f5c8 NOTE
1f5c9 NOTE PAGE
1f5ca NOTE PAD
1f5cb EMPTY DOCUMENT
1f5cc EMPTY PAGE
1f5cd EMPTY PAGES
1f5ce DOCUMENT
1f5cf PAGE
1f5d0 PAGES
1f5d1 WASTEBASKET
1f5d2 SPIRAL NOTE PAD
1f5d3 SPIRAL CALENDAR PAD
1f5d4 DESKTOP WINDOW
1f5d5 MINIMIZE
1f5d6 MAXIMIZE
1f5d7 OVERLAP
1f5d8 CLOCKWISE RIGHT AND LEFT SEMICIRCLE ARROWS
1f5d9 CANCELLATION X
1f5da INCREASE FONT SIZE SYMBOL
1f5db DECREASE FONT SIZE SYMBOL
1f5dc COMPRESSION
1f5dd OLD KEY
1f5de ROLLED-UP NEWSPAPER
1f5df PAGE WITH CIRCLED TEXT
1f5e0 STOCK CHART
1f5e1 DAGGER KNIFE
1f5e2 LIPS
1f5e3 SPEAKING HEAD IN SILHOUETTE
1f5e4 THREE RAYS ABOVE
1f5e5 THREE RAYS BELOW
1f5e6 THREE RAYS LEFT
1f5e7 THREE RAYS RIGHT
1f5e8 LEFT SPEECH BUBBLE
1f5e9 RIGHT SPEECH BUBBLE
1f5ea TWO SPEECH BUBBLES
1f5eb THREE SPEECH BUBBLES
1f5ec LEFT THOUGHT BUBBLE
1f5ed RIGHT THOUGHT BUBBLE
1f5ee LEFT ANGER BUBBLE
1f5ef RIGHT ANGER BUBBLE
1f5f0 MOOD BUBBLE
1f5f1 LIGHTNING MOOD BUBBLE
1f5f2 LIGHTNING MOOD
1f5f3 BALLOT BOX WITH BALLOT
1f5f4 BALLOT SCRIPT X
1f5f5 BALLOT BOX WITH SCRIPT X
1f5f6 BALLOT BOLD SCRIPT X
1f5f7 BALLOT BOX WITH BOLD SCRIPT X
1f5f8 LIGHT CHECK MARK
1f5f9 BALLOT BOX WITH BOLD CHECK
1f5fa WORLD MAP
1f5fb MOUNT FUJI
1f5fc TOKYO TOWER
1f5fd STATUE OF LIBERTY
1f5fe SILHOUETTE OF JAPAN
1f5ff MOYAI
1f600 GRINNING FACE
1f601 GRINNING FACE WITH SMILING EYES
1f602 FACE WITH TEARS OF JOY
1f603 SMILING FACE WITH OPEN MOUTH
1f604 SMILING FACE WITH OPEN MOUTH AND SMILING EYES"

/-- Names, part 39: a number in hexadecimal and a name on each line. -/
def characterNames39 : String :=
  "1f605 SMILING FACE WITH OPEN MOUTH AND COLD SWEAT
1f606 SMILING FACE WITH OPEN MOUTH AND TIGHTLY-CLOSED EYES
1f607 SMILING FACE WITH HALO
1f608 SMILING FACE WITH HORNS
1f609 WINKING FACE
1f60a SMILING FACE WITH SMILING EYES
1f60b FACE SAVOURING DELICIOUS FOOD
1f60c RELIEVED FACE
1f60d SMILING FACE WITH HEART-SHAPED EYES
1f60e SMILING FACE WITH SUNGLASSES
1f60f SMIRKING FACE
1f610 NEUTRAL FACE
1f611 EXPRESSIONLESS FACE
1f612 UNAMUSED FACE
1f613 FACE WITH COLD SWEAT
1f614 PENSIVE FACE
1f615 CONFUSED FACE
1f616 CONFOUNDED FACE
1f617 KISSING FACE
1f618 FACE THROWING A KISS
1f619 KISSING FACE WITH SMILING EYES
1f61a KISSING FACE WITH CLOSED EYES
1f61b FACE WITH STUCK-OUT TONGUE
1f61c FACE WITH STUCK-OUT TONGUE AND WINKING EYE
1f61d FACE WITH STUCK-OUT TONGUE AND TIGHTLY-CLOSED EYES
1f61e DISAPPOINTED FACE
1f61f WORRIED FACE
1f620 ANGRY FACE
1f621 POUTING FACE
1f622 CRYING FACE
1f623 PERSEVERING FACE
1f624 FACE WITH LOOK OF TRIUMPH
1f625 DISAPPOINTED BUT RELIEVED FACE
1f626 FROWNING FACE WITH OPEN MOUTH
1f627 ANGUISHED FACE
1f628 FEARFUL FACE
1f629 WEARY FACE
1f62a SLEEPY FACE
1f62b TIRED FACE
1f62c GRIMACING FACE
1f62d LOUDLY CRYING FACE
1f62e FACE WITH OPEN MOUTH
1f62f HUSHED FACE
1f630 FACE WITH OPEN MOUTH AND COLD SWEAT
1f631 FACE SCREAMING IN FEAR
1f632 ASTONISHED FACE
1f633 FLUSHED FACE
1f634 SLEEPING FACE
1f635 DIZZY FACE
1f636 FACE WITHOUT MOUTH
1f637 FACE WITH MEDICAL MASK
1f638 GRINNING CAT FACE WITH SMILING EYES
1f639 CAT FACE WITH TEARS OF JOY
1f63a SMILING CAT FACE WITH OPEN MOUTH
1f63b SMILING CAT FACE WITH HEART-SHAPED EYES
1f63c CAT FACE WITH WRY SMILE
1f63d KISSING CAT FACE WITH CLOSED EYES
1f63e POUTING CAT FACE
1f63f CRYING CAT FACE
1f640 WEARY CAT FACE
1f641 SLIGHTLY FROWNING FACE
1f642 SLIGHTLY SMILING FACE
1f643 UPSIDE-DOWN FACE
1f644 FACE WITH ROLLING EYES
1f645 FACE WITH NO GOOD GESTURE
1f646 FACE WITH OK GESTURE
1f647 PERSON BOWING DEEPLY
1f648 SEE-NO-EVIL MONKEY
1f649 HEAR-NO-EVIL MONKEY
1f64a SPEAK-NO-EVIL MONKEY
1f64b HAPPY PERSON RAISING ONE HAND
1f64c PERSON RAISING BOTH HANDS IN CELEBRATION
1f64d PERSON FROWNING
1f64e PERSON WITH POUTING FACE
1f64f PERSON WITH FOLDED HANDS
1f680 ROCKET
1f681 HELICOPTER
1f682 STEAM LOCOMOTIVE
1f683 RAILWAY CAR
1f684 HIGH-SPEED TRAIN
1f685 HIGH-SPEED TRAIN WITH BULLET NOSE
1f686 TRAIN
1f687 METRO
1f688 LIGHT RAIL
1f689 STATION
1f68a TRAM
1f68b TRAM CAR
1f68c BUS
1f68d ONCOMING BUS
1f68e TROLLEYBUS
1f68f BUS STOP
1f690 MINIBUS
1f691 AMBULANCE
1f692 FIRE ENGINE
1f693 POLICE CAR
1f694 ONCOMING POLICE CAR
1f695 TAXI
1f696 ONCOMING TAXI
1f697 AUTOMOBILE
1f698 ONCOMING AUTOMOBILE
1f699 RECREATIONAL VEHICLE
1f69a DELIVERY TRUCK
1f69b ARTICULATED LORRY
1f69c TRACTOR
1f69d MONORAIL
1f69e MOUNTAIN RAILWAY
1f69f SUSPENSION RAILWAY
1f6a0 MOUNTAIN CABLEWAY
1f6a1 AERIAL TRAMWAY
1f6a2 SHIP
1f6a3 ROWBOAT
1f6a4 SPEEDBOAT
1f6a5 HORIZONTAL TRAFFIC LIGHT
1f6a6 VERTICAL TRAFFIC LIGHT
1f6a7 CONSTRUCTION SIGN
1f6a8 POLICE CARS REVOLVING LIGHT
1f6a9 TRIANGULAR FLAG ON POST
1f6aa DOOR
1f6ab NO ENTRY SIGN
1f6ac SMOKING SYMBOL
1f6ad NO SMOKING SYMBOL
1f6ae PUT LITTER IN ITS PLACE SYMBOL
1f6af DO NOT LITTER SYMBOL
1f6b0 POTABLE WATER SYMBOL
1f6b1 NON-POTABLE WATER SYMBOL
1f6b2 BICYCLE
1f6b3 NO BICYCLES
1f6b4 BICYCLIST
1f6b5 MOUNTAIN BICYCLIST
1f6b6 PEDESTRIAN
1f6b7 NO PEDESTRIANS
1f6b8 CHILDREN CROSSING
1f6b9 MENS SYMBOL
1f6ba WOMENS SYMBOL
1f6bb RESTROOM
1f6bc BABY SYMBOL
1f6bd TOILET
1f6be WATER CLOSET
1f6bf SHOWER
1f6c0 BATH
1f6c1 BATHTUB
1f6c2 PASSPORT CONTROL
1f6c3 CUSTOMS
1f6c4 BAGGAGE CLAIM
1f6c5 LEFT LUGGAGE
1f6c6 TRIANGLE WITH ROUNDED CORNERS
1f6c7 PROHIBITED SIGN
1f6c8 CIRCLED INFORMATION SOURCE
1f6c9 BOYS SYMBOL
1f6ca GIRLS SYMBOL
1f6cb COUCH AND LAMP
1f6cc SLEEPING ACCOMMODATION
1f6cd SHOPPING BAGS
1f6ce BELLHOP BELL
1f6cf BED
1f6d0 PLACE OF WORSHIP
1f6d1 OCTAGONAL SIGN
1f6d2 SHOPPING TROLLEY
1f6d3 STUPA
1f6d4 PAGODA
1f6d5 HINDU TEMPLE
1f6d6 HUT
1f6d7 ELEVATOR
1f6dd PLAYGROUND SLIDE
1f6de WHEEL
1f6df RING BUOY
1f6e0 HAMMER AND WRENCH
1f6e1 SHIELD
1f6e2 OIL DRUM
1f6e3 MOTORWAY"

/-- Names, part 40: a number in hexadecimal and a name on each line. -/
def characterNames40 : String :=
  "1f6e4 RAILWAY TRACK
1f6e5 MOTOR BOAT
1f6e6 UP-POINTING MILITARY AIRPLANE
1f6e7 UP-POINTING AIRPLANE
1f6e8 UP-POINTING SMALL AIRPLANE
1f6e9 SMALL AIRPLANE
1f6ea NORTHEAST-POINTING AIRPLANE
1f6eb AIRPLANE DEPARTURE
1f6ec AIRPLANE ARRIVING
1f6f0 SATELLITE
1f6f1 ONCOMING FIRE ENGINE
1f6f2 DIESEL LOCOMOTIVE
1f6f3 PASSENGER SHIP
1f6f4 SCOOTER
1f6f5 MOTOR SCOOTER
1f6f6 CANOE
1f6f7 SLED
1f6f8 FLYING SAUCER
1f6f9 SKATEBOARD
1f6fa AUTO RICKSHAW
1f6fb PICKUP TRUCK
1f6fc ROLLER SKATE
1f900 CIRCLED CROSS FORMEE WITH FOUR DOTS
1f901 CIRCLED CROSS FORMEE WITH TWO DOTS
1f902 CIRCLED CROSS FORMEE
1f903 LEFT HALF CIRCLE WITH FOUR DOTS
1f904 LEFT HALF CIRCLE WITH THREE DOTS
1f905 LEFT HALF CIRCLE WITH TWO DOTS
1f906 LEFT HALF CIRCLE WITH DOT
1f907 LEFT HALF CIRCLE
1f908 DOWNWARD FACING HOOK
1f909 DOWNWARD FACING NOTCHED HOOK
1f90a DOWNWARD FACING HOOK WITH DOT
1f90b DOWNWARD FACING NOTCHED HOOK WITH DOT
1f90c PINCHED FINGERS
1f90d WHITE HEART
1f90e BROWN HEART
1f90f PINCHING HAND
1f910 ZIPPER-MOUTH FACE
1f911 MONEY-MOUTH FACE
1f912 FACE WITH THERMOMETER
1f913 NERD FACE
1f914 THINKING FACE
1f915 FACE WITH HEAD-BANDAGE
1f916 ROBOT FACE
1f917 HUGGING FACE
1f918 SIGN OF THE HORNS
1f919 CALL ME HAND
1f91a RAISED BACK OF HAND
1f91b LEFT-FACING FIST
1f91c RIGHT-FACING FIST
1f91d HANDSHAKE
1f91e HAND WITH INDEX AND MIDDLE FINGERS CROSSED
1f91f I LOVE YOU HAND SIGN
1f920 FACE WITH COWBOY HAT
1f921 CLOWN FACE
1f922 NAUSEATED FACE
1f923 ROLLING ON THE FLOOR LAUGHING
1f924 DROOLING FACE
1f925 LYING FACE
1f926 FACE PALM
1f927 SNEEZING FACE
1f928 FACE WITH ONE EYEBROW RAISED
1f929 GRINNING FACE WITH STAR EYES
1f92a GRINNING FACE WITH ONE LARGE AND ONE SMALL EYE
1f92b FACE WITH FINGER COVERING CLOSED LIPS
1f92c SERIOUS FACE WITH SYMBOLS COVERING MOUTH
1f92d SMILING FACE WITH SMILING EYES AND HAND COVERING MOUTH
1f92e FACE WITH OPEN MOUTH VOMITING
1f92f SHOCKED FACE WITH EXPLODING HEAD
1f930 PREGNANT WOMAN
1f931 BREAST-FEEDING
1f932 PALMS UP TOGETHER
1f933 SELFIE
1f934 PRINCE
1f935 MAN IN TUXEDO
1f936 MOTHER CHRISTMAS
1f937 SHRUG
1f938 PERSON DOING CARTWHEEL
1f939 JUGGLING
1f93a FENCER
1f93b MODERN PENTATHLON
1f93c WRESTLERS
1f93d WATER POLO
1f93e HANDBALL
1f93f DIVING MASK
1f940 WILTED FLOWER
1f941 DRUM WITH DRUMSTICKS
1f942 CLINKING GLASSES
1f943 TUMBLER GLASS
1f944 SPOON
1f945 GOAL NET
1f946 RIFLE
1f947 FIRST PLACE MEDAL
1f948 SECOND PLACE MEDAL
1f949 THIRD PLACE MEDAL
1f94a BOXING GLOVE
1f94b MARTIAL ARTS UNIFORM
1f94c CURLING STONE
1f94d LACROSSE STICK AND BALL
1f94e SOFTBALL
1f94f FLYING DISC
1f950 CROISSANT
1f951 AVOCADO
1f952 CUCUMBER
1f953 BACON
1f954 POTATO
1f955 CARROT
1f956 BAGUETTE BREAD
1f957 GREEN SALAD
1f958 SHALLOW PAN OF FOOD
1f959 STUFFED FLATBREAD
1f95a EGG
1f95b GLASS OF MILK
1f95c PEANUTS
1f95d KIWIFRUIT
1f95e PANCAKES
1f95f DUMPLING
1f960 FORTUNE COOKIE
1f961 TAKEOUT BOX
1f962 CHOPSTICKS
1f963 BOWL WITH SPOON
1f964 CUP WITH STRAW
1f965 COCONUT
1f966 BROCCOLI
1f967 PIE
1f968 PRETZEL
1f969 CUT OF MEAT
1f96a SANDWICH
1f96b CANNED FOOD
1f96c LEAFY GREEN
1f96d MANGO
1f96e MOON CAKE
1f96f BAGEL
1f970 SMILING FACE WITH SMILING EYES AND THREE HEARTS
1f971 YAWNING FACE
1f972 SMILING FACE WITH TEAR
1f973 FACE WITH PARTY HORN AND PARTY HAT
1f974 FACE WITH UNEVEN EYES AND WAVY MOUTH
1f975 OVERHEATED FACE
1f976 FREEZING FACE
1f977 NINJA
1f978 DISGUISED FACE
1f979 FACE HOLDING BACK TEARS
1f97a FACE WITH PLEADING EYES
1f97b SARI
1f97c LAB COAT
1f97d GOGGLES
1f97e HIKING BOOT
1f97f FLAT SHOE
1f980 CRAB
1f981 LION FACE
1f982 SCORPION
1f983 TURKEY
1f984 UNICORN FACE
1f985 EAGLE
1f986 DUCK
1f987 BAT
1f988 SHARK
1f989 OWL
1f98a FOX FACE
1f98b BUTTERFLY
1f98c DEER
1f98d GORILLA
1f98e LIZARD
1f98f RHINOCEROS
1f990 SHRIMP
1f991 SQUID
1f992 GIRAFFE FACE
1f993 ZEBRA FACE
1f994 HEDGEHOG
1f995 SAUROPOD
1f996 T-REX
1f997 CRICKET
1f998 KANGAROO
1f999 LLAMA
1f99a PEACOCK
1f99b HIPPOPOTAMUS
1f99c PARROT
1f99d RACCOON
1f99e LOBSTER
1f99f MOSQUITO
1f9a0 MICROBE
1f9a1 BADGER
1f9a2 SWAN
1f9a3 MAMMOTH
1f9a4 DODO
1f9a5 SLOTH
1f9a6 OTTER
1f9a7 ORANGUTAN
1f9a8 SKUNK"

/-- Names, part 41: a number in hexadecimal and a name on each line. -/
def characterNames41 : String :=
  "1f9a9 FLAMINGO
1f9aa OYSTER
1f9ab BEAVER
1f9ac BISON
1f9ad SEAL
1f9ae GUIDE DOG
1f9af PROBING CANE
1f9b0 EMOJI COMPONENT RED HAIR
1f9b1 EMOJI COMPONENT CURLY HAIR
1f9b2 EMOJI COMPONENT BALD
1f9b3 EMOJI COMPONENT WHITE HAIR
1f9b4 BONE
1f9b5 LEG
1f9b6 FOOT
1f9b7 TOOTH
1f9b8 SUPERHERO
1f9b9 SUPERVILLAIN
1f9ba SAFETY VEST
1f9bb EAR WITH HEARING AID
1f9bc MOTORIZED WHEELCHAIR
1f9bd MANUAL WHEELCHAIR
1f9be MECHANICAL ARM
1f9bf MECHANICAL LEG
1f9c0 CHEESE WEDGE
1f9c1 CUPCAKE
1f9c2 SALT SHAKER
1f9c3 BEVERAGE BOX
1f9c4 GARLIC
1f9c5 ONION
1f9c6 FALAFEL
1f9c7 WAFFLE
1f9c8 BUTTER
1f9c9 MATE DRINK
1f9ca ICE CUBE
1f9cb BUBBLE TEA
1f9cc TROLL
1f9cd STANDING PERSON
1f9ce KNEELING PERSON
1f9cf DEAF PERSON
1f9d0 FACE WITH MONOCLE
1f9d1 ADULT
1f9d2 CHILD
1f9d3 OLDER ADULT
1f9d4 BEARDED PERSON
1f9d5 PERSON WITH HEADSCARF
1f9d6 PERSON IN STEAMY ROOM
1f9d7 PERSON CLIMBING
1f9d8 PERSON IN LOTUS POSITION
1f9d9 MAGE
1f9da FAIRY
1f9db VAMPIRE
1f9dc MERPERSON
1f9dd ELF
1f9de GENIE
1f9df ZOMBIE
1f9e0 BRAIN
1f9e1 ORANGE HEART
1f9e2 BILLED CAP
1f9e3 SCARF
1f9e4 GLOVES
1f9e5 COAT
1f9e6 SOCKS
1f9e7 RED GIFT ENVELOPE
1f9e8 FIRECRACKER
1f9e9 JIGSAW PUZZLE PIECE
1f9ea TEST TUBE
1f9eb PETRI DISH
1f9ec DNA DOUBLE HELIX
1f9ed COMPASS
1f9ee ABACUS
1f9ef FIRE EXTINGUISHER
1f9f0 TOOLBOX
1f9f1 BRICK
1f9f2 MAGNET
1f9f3 LUGGAGE
1f9f4 LOTION BOTTLE
1f9f5 SPOOL OF THREAD
1f9f6 BALL OF YARN
1f9f7 SAFETY PIN
1f9f8 TEDDY BEAR
1f9f9 BROOM
1f9fa BASKET
1f9fb ROLL OF PAPER
1f9fc BAR OF SOAP
1f9fd SPONGE
1f9fe RECEIPT
1f9ff NAZAR AMULET
1 START OF HEADING
1 SOH
2 START OF TEXT
2 STX
3 END OF TEXT
3 ETX
4 END OF TRANSMISSION
4 EOT
5 ENQUIRY
5 ENQ
6 ACKNOWLEDGE
6 ACK
7 ALERT
7 BEL
8 BACKSPACE
8 BS
9 CHARACTER TABULATION
9 HORIZONTAL TABULATION
9 HT
9 TAB
a LINE FEED
a NEW LINE
a END OF LINE
a LF
a NL
a EOL
b LINE TABULATION
b VERTICAL TABULATION
b VT
c FORM FEED
c FF
d CARRIAGE RETURN
d CR
e SHIFT OUT
e SO
f SHIFT IN
f SI
10 DATA LINK ESCAPE
10 DLE
11 DEVICE CONTROL ONE
11 DC1
18 CANCEL
18 CAN
1a SUBSTITUTE
1a SUB
1b ESCAPE
1b ESC
1c INFORMATION SEPARATOR FOUR
1c FILE SEPARATOR
1c FS
1d GROUP SEPARATOR
1d GS
1e RECORD SEPARATOR
1e RS
1f UNIT SEPARATOR
1f US
20 SP
7f DELETE
7f DEL
85 NEXT LINE
85 NEL
a0 NBSP
ad SHY
200b ZWSP
200c ZWNJ
200d ZWJ
200e LRM
200f RLM
feff BOM
feff ZWNBSP
feff BYTE ORDER MARK
0 NULL
0 NUL
80 PADDING CHARACTER
80 PAD"

/-- All names, a number in hexadecimal and a name on each line. -/
def characterNames : List String :=
  [characterNames1, characterNames2, characterNames3, characterNames4, characterNames5, characterNames6,
   characterNames7, characterNames8, characterNames9, characterNames10, characterNames11, characterNames12,
   characterNames13, characterNames14, characterNames15, characterNames16, characterNames17, characterNames18,
   characterNames19, characterNames20, characterNames21, characterNames22, characterNames23, characterNames24,
   characterNames25, characterNames26, characterNames27, characterNames28, characterNames29, characterNames30,
   characterNames31, characterNames32, characterNames33, characterNames34, characterNames35, characterNames36,
   characterNames37, characterNames38, characterNames39, characterNames40, characterNames41]

/-- A line of the list: the number and the name. -/
def characterEntry (line : Text) : CodePoint × Text :=
  let digits := line.takeWhile (· != 0x20)
  (valueInBase 16 digits, (line.dropWhile (· != 0x20)).drop 1)

/-- The lines of a text. -/
def linesOf (t : Text) : List Text :=
  let (last, done) := t.foldl (fun (line, done) c => if c = 10 then ([], line.reverse :: done) else (c :: line, done)) ([], [])
  (last.reverse :: done).reverse

/-- The code point of a unified ideograph, whose name holds its number. -/
def ideographNamed? (name : Text) : Option CodePoint :=
  match after? "CJK UNIFIED IDEOGRAPH-" name with
  | none => none
  | some digits =>
    let c := valueInBase 16 digits
    if (digits.length = 4 ∨ digits.length = 5) ∧ digits.all (fun d => (hexValue? d).isSome) ∧
        ((0x3400 ≤ c ∧ c ≤ 0x4dbf) ∨ (0x4e00 ≤ c ∧ c ≤ 0x9ffc) ∨ (0x20000 ≤ c ∧ c ≤ 0x2a6dd)) then some c
    else none

/-- The character with a name, in any case. -/
def ofCharacterName? (name : Text) : Option CodePoint :=
  let wanted := name.map fun c => if 0x61 ≤ c ∧ c ≤ 0x7a then c - 32 else c
  match ideographNamed? wanted with
  | some c => some c
  | none =>
    characterNames.findSome? fun (part : String) =>
      (linesOf (ofString part)).findSome? fun line =>
        let (c, known) := characterEntry line
        if same known wanted then some c else none

end Rulebook.Text
