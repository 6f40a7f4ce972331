import DocSearch.Unicode.CodeRange
import DocSearch.Unicode.Hangul

/-!
# Compatibility decomposition

The full compatibility decomposition of a character: ligatures, full-width forms, circled and
styled letters fall back to their plain spelling, and letters with marks are taken apart. An
entry `a=x.y.z` decomposes one code point, and `a-b=x` a run of code points whose decompositions
are as consecutive as they are. Hangul syllables are decomposed by arithmetic. The table is that of
Unicode 17.0 and goes on with modifier letters, subscripts and kana digraphs of 18.0.
-/

namespace DocSearch.Unicode

/-- The code points that decompose, other than Hangul syllables. -/
def decompositionRows : List String := [
  "00A0=0020 00A8=0020.0308 00AA=0061 00AF=0020.0304 00B2-00B3=0032 00B4=0020.0301 00B5=03BC",
  "00B8=0020.0327 00B9=0031 00BA=006F 00BC=0031.2044.0034 00BD=0031.2044.0032",
  "00BE=0033.2044.0034 00C0=0041.0300 00C1=0041.0301 00C2=0041.0302 00C3=0041.0303",
  "00C4=0041.0308 00C5=0041.030A 00C7=0043.0327 00C8=0045.0300 00C9=0045.0301 00CA=0045.0302",
  "00CB=0045.0308 00CC=0049.0300 00CD=0049.0301 00CE=0049.0302 00CF=0049.0308 00D1=004E.0303",
  "00D2=004F.0300 00D3=004F.0301 00D4=004F.0302 00D5=004F.0303 00D6=004F.0308 00D9=0055.0300",
  "00DA=0055.0301 00DB=0055.0302 00DC=0055.0308 00DD=0059.0301 00E0=0061.0300 00E1=0061.0301",
  "00E2=0061.0302 00E3=0061.0303 00E4=0061.0308 00E5=0061.030A 00E7=0063.0327 00E8=0065.0300",
  "00E9=0065.0301 00EA=0065.0302 00EB=0065.0308 00EC=0069.0300 00ED=0069.0301 00EE=0069.0302",
  "00EF=0069.0308 00F1=006E.0303 00F2=006F.0300 00F3=006F.0301 00F4=006F.0302 00F5=006F.0303",
  "00F6=006F.0308 00F9=0075.0300 00FA=0075.0301 00FB=0075.0302 00FC=0075.0308 00FD=0079.0301",
  "00FF=0079.0308 0100=0041.0304 0101=0061.0304 0102=0041.0306 0103=0061.0306 0104=0041.0328",
  "0105=0061.0328 0106=0043.0301 0107=0063.0301 0108=0043.0302 0109=0063.0302 010A=0043.0307",
  "010B=0063.0307 010C=0043.030C 010D=0063.030C 010E=0044.030C 010F=0064.030C 0112=0045.0304",
  "0113=0065.0304 0114=0045.0306 0115=0065.0306 0116=0045.0307 0117=0065.0307 0118=0045.0328",
  "0119=0065.0328 011A=0045.030C 011B=0065.030C 011C=0047.0302 011D=0067.0302 011E=0047.0306",
  "011F=0067.0306 0120=0047.0307 0121=0067.0307 0122=0047.0327 0123=0067.0327 0124=0048.0302",
  "0125=0068.0302 0128=0049.0303 0129=0069.0303 012A=0049.0304 012B=0069.0304 012C=0049.0306",
  "012D=0069.0306 012E=0049.0328 012F=0069.0328 0130=0049.0307 0132=0049.004A 0133=0069.006A",
  "0134=004A.0302 0135=006A.0302 0136=004B.0327 0137=006B.0327 0139=004C.0301 013A=006C.0301",
  "013B=004C.0327 013C=006C.0327 013D=004C.030C 013E=006C.030C 013F=004C.00B7 0140=006C.00B7",
  "0143=004E.0301 0144=006E.0301 0145=004E.0327 0146=006E.0327 0147=004E.030C 0148=006E.030C",
  "0149=02BC.006E 014C=004F.0304 014D=006F.0304 014E=004F.0306 014F=006F.0306 0150=004F.030B",
  "0151=006F.030B 0154=0052.0301 0155=0072.0301 0156=0052.0327 0157=0072.0327 0158=0052.030C",
  "0159=0072.030C 015A=0053.0301 015B=0073.0301 015C=0053.0302 015D=0073.0302 015E=0053.0327",
  "015F=0073.0327 0160=0053.030C 0161=0073.030C 0162=0054.0327 0163=0074.0327 0164=0054.030C",
  "0165=0074.030C 0168=0055.0303 0169=0075.0303 016A=0055.0304 016B=0075.0304 016C=0055.0306",
  "016D=0075.0306 016E=0055.030A 016F=0075.030A 0170=0055.030B 0171=0075.030B 0172=0055.0328",
  "0173=0075.0328 0174=0057.0302 0175=0077.0302 0176=0059.0302 0177=0079.0302 0178=0059.0308",
  "0179=005A.0301 017A=007A.0301 017B=005A.0307 017C=007A.0307 017D=005A.030C 017E=007A.030C",
  "017F=0073 01A0=004F.031B 01A1=006F.031B 01AF=0055.031B 01B0=0075.031B 01C4=0044.005A.030C",
  "01C5=0044.007A.030C 01C6=0064.007A.030C 01C7=004C.004A 01C8=004C.006A 01C9=006C.006A",
  "01CA=004E.004A 01CB=004E.006A 01CC=006E.006A 01CD=0041.030C 01CE=0061.030C 01CF=0049.030C",
  "01D0=0069.030C 01D1=004F.030C 01D2=006F.030C 01D3=0055.030C 01D4=0075.030C",
  "01D5=0055.0308.0304 01D6=0075.0308.0304 01D7=0055.0308.0301 01D8=0075.0308.0301",
  "01D9=0055.0308.030C 01DA=0075.0308.030C 01DB=0055.0308.0300 01DC=0075.0308.0300",
  "01DE=0041.0308.0304 01DF=0061.0308.0304 01E0=0041.0307.0304 01E1=0061.0307.0304",
  "01E2=00C6.0304 01E3=00E6.0304 01E6=0047.030C 01E7=0067.030C 01E8=004B.030C 01E9=006B.030C",
  "01EA=004F.0328 01EB=006F.0328 01EC=004F.0328.0304 01ED=006F.0328.0304 01EE=01B7.030C",
  "01EF=0292.030C 01F0=006A.030C 01F1=0044.005A 01F2=0044.007A 01F3=0064.007A 01F4=0047.0301",
  "01F5=0067.0301 01F8=004E.0300 01F9=006E.0300 01FA=0041.030A.0301 01FB=0061.030A.0301",
  "01FC=00C6.0301 01FD=00E6.0301 01FE=00D8.0301 01FF=00F8.0301 0200=0041.030F 0201=0061.030F",
  "0202=0041.0311 0203=0061.0311 0204=0045.030F 0205=0065.030F 0206=0045.0311 0207=0065.0311",
  "0208=0049.030F 0209=0069.030F 020A=0049.0311 020B=0069.0311 020C=004F.030F 020D=006F.030F",
  "020E=004F.0311 020F=006F.0311 0210=0052.030F 0211=0072.030F 0212=0052.0311 0213=0072.0311",
  "0214=0055.030F 0215=0075.030F 0216=0055.0311 0217=0075.0311 0218=0053.0326 0219=0073.0326",
  "021A=0054.0326 021B=0074.0326 021E=0048.030C 021F=0068.030C 0226=0041.0307 0227=0061.0307",
  "0228=0045.0327 0229=0065.0327 022A=004F.0308.0304 022B=006F.0308.0304 022C=004F.0303.0304",
  "022D=006F.0303.0304 022E=004F.0307 022F=006F.0307 0230=004F.0307.0304 0231=006F.0307.0304",
  "0232=0059.0304 0233=0079.0304 02B0=0068 02B1=0266 02B2=006A 02B3=0072 02B4=0279 02B5=027B",
  "02B6=0281 02B7=0077 02B8=0079 02D8=0020.0306 02D9=0020.0307 02DA=0020.030A 02DB=0020.0328",
  "02DC=0020.0303 02DD=0020.030B 02E0=0263 02E1=006C 02E2=0073 02E3=0078 02E4=0295",
  "0340-0341=0300 0343=0313 0344=0308.0301 0374=02B9 037A=0020.0345 037E=003B 0384=0020.0301",
  "0385=0020.0308.0301 0386=0391.0301 0387=00B7 0388=0395.0301 0389=0397.0301 038A=0399.0301",
  "038C=039F.0301 038E=03A5.0301 038F=03A9.0301 0390=03B9.0308.0301 03AA=0399.0308",
  "03AB=03A5.0308 03AC=03B1.0301 03AD=03B5.0301 03AE=03B7.0301 03AF=03B9.0301",
  "03B0=03C5.0308.0301 03CA=03B9.0308 03CB=03C5.0308 03CC=03BF.0301 03CD=03C5.0301",
  "03CE=03C9.0301 03D0=03B2 03D1=03B8 03D2=03A5 03D3=03A5.0301 03D4=03A5.0308 03D5=03C6",
  "03D6=03C0 03F0=03BA 03F1-03F2=03C1 03F4=0398 03F5=03B5 03F9=03A3 0400=0415.0300",
  "0401=0415.0308 0403=0413.0301 0407=0406.0308 040C=041A.0301 040D=0418.0300 040E=0423.0306",
  "0419=0418.0306 0439=0438.0306 0450=0435.0300 0451=0435.0308 0453=0433.0301 0457=0456.0308",
  "045C=043A.0301 045D=0438.0300 045E=0443.0306 0476=0474.030F 0477=0475.030F 04C1=0416.0306",
  "04C2=0436.0306 04D0=0410.0306 04D1=0430.0306 04D2=0410.0308 04D3=0430.0308 04D6=0415.0306",
  "04D7=0435.0306 04DA=04D8.0308 04DB=04D9.0308 04DC=0416.0308 04DD=0436.0308 04DE=0417.0308",
  "04DF=0437.0308 04E2=0418.0304 04E3=0438.0304 04E4=0418.0308 04E5=0438.0308 04E6=041E.0308",
  "04E7=043E.0308 04EA=04E8.0308 04EB=04E9.0308 04EC=042D.0308 04ED=044D.0308 04EE=0423.0304",
  "04EF=0443.0304 04F0=0423.0308 04F1=0443.0308 04F2=0423.030B 04F3=0443.030B 04F4=0427.0308",
  "04F5=0447.0308 04F8=042B.0308 04F9=044B.0308 0558=0567 0587=0565.0582 058B=056B",
  "0622=0627.0653 0623=0627.0654 0624=0648.0654 0625=0627.0655 0626=064A.0654 0675=0627.0674",
  "0676=0648.0674 0677=06C7.0674 0678=064A.0674 06C0=06D5.0654 06C2=06C1.0654 06D3=06D2.0654",
  "0929=0928.093C 0931=0930.093C 0934=0933.093C 0958=0915.093C 0959=0916.093C 095A=0917.093C",
  "095B=091C.093C 095C=0921.093C 095D=0922.093C 095E=092B.093C 095F=092F.093C 09CB=09C7.09BE",
  "09CC=09C7.09D7 09DC=09A1.09BC 09DD=09A2.09BC 09DF=09AF.09BC 0A33=0A32.0A3C 0A36=0A38.0A3C",
  "0A59=0A16.0A3C 0A5A=0A17.0A3C 0A5B=0A1C.0A3C 0A5E=0A2B.0A3C 0B48=0B47.0B56 0B4B=0B47.0B3E",
  "0B4C=0B47.0B57 0B5C=0B21.0B3C 0B5D=0B22.0B3C 0B94=0B92.0BD7 0BCA=0BC6.0BBE 0BCB=0BC7.0BBE",
  "0BCC=0BC6.0BD7 0C48=0C46.0C56 0CC0=0CBF.0CD5 0CC7=0CC6.0CD5 0CC8=0CC6.0CD6 0CCA=0CC6.0CC2",
  "0CCB=0CC6.0CC2.0CD5 0D4A=0D46.0D3E 0D4B=0D47.0D3E 0D4C=0D46.0D57 0DDA=0DD9.0DCA",
  "0DDC=0DD9.0DCF 0DDD=0DD9.0DCF.0DCA 0DDE=0DD9.0DDF 0E33=0E4D.0E32 0EB3=0ECD.0EB2",
  "0EDC=0EAB.0E99 0EDD=0EAB.0EA1 0F0C=0F0B 0F43=0F42.0FB7 0F4D=0F4C.0FB7 0F52=0F51.0FB7",
  "0F57=0F56.0FB7 0F5C=0F5B.0FB7 0F69=0F40.0FB5 0F73=0F71.0F72 0F75=0F71.0F74 0F76=0FB2.0F80",
  "0F77=0FB2.0F71.0F80 0F78=0FB3.0F80 0F79=0FB3.0F71.0F80 0F81=0F71.0F80 0F93=0F92.0FB7",
  "0F9D=0F9C.0FB7 0FA2=0FA1.0FB7 0FA7=0FA6.0FB7 0FAC=0FAB.0FB7 0FB9=0F90.0FB5 1026=1025.102E",
  "10FC=10DC 1B06=1B05.1B35 1B08=1B07.1B35 1B0A=1B09.1B35 1B0C=1B0B.1B35 1B0E=1B0D.1B35",
  "1B12=1B11.1B35 1B3B=1B3A.1B35 1B3D=1B3C.1B35 1B40=1B3E.1B35 1B41=1B3F.1B35 1B43=1B42.1B35",
  "1D2C=0041 1D2D=00C6 1D2E=0042 1D30-1D31=0044 1D32=018E 1D33-1D3A=0047 1D3C=004F 1D3D=0222",
  "1D3E=0050 1D3F=0052 1D40-1D41=0054 1D42=0057 1D43=0061 1D44-1D45=0250 1D46=1D02 1D47=0062",
  "1D48-1D49=0064 1D4A=0259 1D4B-1D4C=025B 1D4D=0067 1D4F=006B 1D50=006D 1D51=014B 1D52=006F",
  "1D53=0254 1D54-1D55=1D16 1D56=0070 1D57-1D58=0074 1D59=1D1D 1D5A=026F 1D5B=0076 1D5C=1D25",
  "1D5D-1D5F=03B2 1D60-1D61=03C6 1D62=0069 1D63=0072 1D64-1D65=0075 1D66-1D67=03B2 1D68=03C1",
  "1D69-1D6A=03C6 1D78=043D 1D9B=0252 1D9C=0063 1D9D=0255 1D9E=00F0 1D9F=025C 1DA0=0066",
  "1DA1=025F 1DA2=0261 1DA3=0265 1DA4-1DA6=0268 1DA7=1D7B 1DA8=029D 1DA9=026D 1DAA=1D85",
  "1DAB=029F 1DAC=0271 1DAD=0270 1DAE-1DB1=0272 1DB2=0278 1DB3-1DB4=0282 1DB5=01AB",
  "1DB6-1DB7=0289 1DB8=1D1C 1DB9-1DBA=028B 1DBB=007A 1DBC-1DBE=0290 1DBF=03B8 1E00=0041.0325",
  "1E01=0061.0325 1E02=0042.0307 1E03=0062.0307 1E04=0042.0323 1E05=0062.0323 1E06=0042.0331",
  "1E07=0062.0331 1E08=0043.0327.0301 1E09=0063.0327.0301 1E0A=0044.0307 1E0B=0064.0307",
  "1E0C=0044.0323 1E0D=0064.0323 1E0E=0044.0331 1E0F=0064.0331 1E10=0044.0327 1E11=0064.0327",
  "1E12=0044.032D 1E13=0064.032D 1E14=0045.0304.0300 1E15=0065.0304.0300 1E16=0045.0304.0301",
  "1E17=0065.0304.0301 1E18=0045.032D 1E19=0065.032D 1E1A=0045.0330 1E1B=0065.0330",
  "1E1C=0045.0327.0306 1E1D=0065.0327.0306 1E1E=0046.0307 1E1F=0066.0307 1E20=0047.0304",
  "1E21=0067.0304 1E22=0048.0307 1E23=0068.0307 1E24=0048.0323 1E25=0068.0323 1E26=0048.0308",
  "1E27=0068.0308 1E28=0048.0327 1E29=0068.0327 1E2A=0048.032E 1E2B=0068.032E 1E2C=0049.0330",
  "1E2D=0069.0330 1E2E=0049.0308.0301 1E2F=0069.0308.0301 1E30=004B.0301 1E31=006B.0301",
  "1E32=004B.0323 1E33=006B.0323 1E34=004B.0331 1E35=006B.0331 1E36=004C.0323 1E37=006C.0323",
  "1E38=004C.0323.0304 1E39=006C.0323.0304 1E3A=004C.0331 1E3B=006C.0331 1E3C=004C.032D",
  "1E3D=006C.032D 1E3E=004D.0301 1E3F=006D.0301 1E40=004D.0307 1E41=006D.0307 1E42=004D.0323",
  "1E43=006D.0323 1E44=004E.0307 1E45=006E.0307 1E46=004E.0323 1E47=006E.0323 1E48=004E.0331",
  "1E49=006E.0331 1E4A=004E.032D 1E4B=006E.032D 1E4C=004F.0303.0301 1E4D=006F.0303.0301",
  "1E4E=004F.0303.0308 1E4F=006F.0303.0308 1E50=004F.0304.0300 1E51=006F.0304.0300",
  "1E52=004F.0304.0301 1E53=006F.0304.0301 1E54=0050.0301 1E55=0070.0301 1E56=0050.0307",
  "1E57=0070.0307 1E58=0052.0307 1E59=0072.0307 1E5A=0052.0323 1E5B=0072.0323",
  "1E5C=0052.0323.0304 1E5D=0072.0323.0304 1E5E=0052.0331 1E5F=0072.0331 1E60=0053.0307",
  "1E61=0073.0307 1E62=0053.0323 1E63=0073.0323 1E64=0053.0301.0307 1E65=0073.0301.0307",
  "1E66=0053.030C.0307 1E67=0073.030C.0307 1E68=0053.0323.0307 1E69=0073.0323.0307",
  "1E6A=0054.0307 1E6B=0074.0307 1E6C=0054.0323 1E6D=0074.0323 1E6E=0054.0331 1E6F=0074.0331",
  "1E70=0054.032D 1E71=0074.032D 1E72=0055.0324 1E73=0075.0324 1E74=0055.0330 1E75=0075.0330",
  "1E76=0055.032D 1E77=0075.032D 1E78=0055.0303.0301 1E79=0075.0303.0301 1E7A=0055.0304.0308",
  "1E7B=0075.0304.0308 1E7C=0056.0303 1E7D=0076.0303 1E7E=0056.0323 1E7F=0076.0323",
  "1E80=0057.0300 1E81=0077.0300 1E82=0057.0301 1E83=0077.0301 1E84=0057.0308 1E85=0077.0308",
  "1E86=0057.0307 1E87=0077.0307 1E88=0057.0323 1E89=0077.0323 1E8A=0058.0307 1E8B=0078.0307",
  "1E8C=0058.0308 1E8D=0078.0308 1E8E=0059.0307 1E8F=0079.0307 1E90=005A.0302 1E91=007A.0302",
  "1E92=005A.0323 1E93=007A.0323 1E94=005A.0331 1E95=007A.0331 1E96=0068.0331 1E97=0074.0308",
  "1E98=0077.030A 1E99=0079.030A 1E9A=0061.02BE 1E9B=0073.0307 1EA0=0041.0323 1EA1=0061.0323",
  "1EA2=0041.0309 1EA3=0061.0309 1EA4=0041.0302.0301 1EA5=0061.0302.0301 1EA6=0041.0302.0300",
  "1EA7=0061.0302.0300 1EA8=0041.0302.0309 1EA9=0061.0302.0309 1EAA=0041.0302.0303",
  "1EAB=0061.0302.0303 1EAC=0041.0323.0302 1EAD=0061.0323.0302 1EAE=0041.0306.0301",
  "1EAF=0061.0306.0301 1EB0=0041.0306.0300 1EB1=0061.0306.0300 1EB2=0041.0306.0309",
  "1EB3=0061.0306.0309 1EB4=0041.0306.0303 1EB5=0061.0306.0303 1EB6=0041.0323.0306",
  "1EB7=0061.0323.0306 1EB8=0045.0323 1EB9=0065.0323 1EBA=0045.0309 1EBB=0065.0309",
  "1EBC=0045.0303 1EBD=0065.0303 1EBE=0045.0302.0301 1EBF=0065.0302.0301 1EC0=0045.0302.0300",
  "1EC1=0065.0302.0300 1EC2=0045.0302.0309 1EC3=0065.0302.0309 1EC4=0045.0302.0303",
  "1EC5=0065.0302.0303 1EC6=0045.0323.0302 1EC7=0065.0323.0302 1EC8=0049.0309 1EC9=0069.0309",
  "1ECA=0049.0323 1ECB=0069.0323 1ECC=004F.0323 1ECD=006F.0323 1ECE=004F.0309 1ECF=006F.0309",
  "1ED0=004F.0302.0301 1ED1=006F.0302.0301 1ED2=004F.0302.0300 1ED3=006F.0302.0300",
  "1ED4=004F.0302.0309 1ED5=006F.0302.0309 1ED6=004F.0302.0303 1ED7=006F.0302.0303",
  "1ED8=004F.0323.0302 1ED9=006F.0323.0302 1EDA=004F.031B.0301 1EDB=006F.031B.0301",
  "1EDC=004F.031B.0300 1EDD=006F.031B.0300 1EDE=004F.031B.0309 1EDF=006F.031B.0309",
  "1EE0=004F.031B.0303 1EE1=006F.031B.0303 1EE2=004F.031B.0323 1EE3=006F.031B.0323",
  "1EE4=0055.0323 1EE5=0075.0323 1EE6=0055.0309 1EE7=0075.0309 1EE8=0055.031B.0301",
  "1EE9=0075.031B.0301 1EEA=0055.031B.0300 1EEB=0075.031B.0300 1EEC=0055.031B.0309",
  "1EED=0075.031B.0309 1EEE=0055.031B.0303 1EEF=0075.031B.0303 1EF0=0055.031B.0323",
  "1EF1=0075.031B.0323 1EF2=0059.0300 1EF3=0079.0300 1EF4=0059.0323 1EF5=0079.0323",
  "1EF6=0059.0309 1EF7=0079.0309 1EF8=0059.0303 1EF9=0079.0303 1F00=03B1.0313 1F01=03B1.0314",
  "1F02=03B1.0313.0300 1F03=03B1.0314.0300 1F04=03B1.0313.0301 1F05=03B1.0314.0301",
  "1F06=03B1.0313.0342 1F07=03B1.0314.0342 1F08=0391.0313 1F09=0391.0314 1F0A=0391.0313.0300",
  "1F0B=0391.0314.0300 1F0C=0391.0313.0301 1F0D=0391.0314.0301 1F0E=0391.0313.0342",
  "1F0F=0391.0314.0342 1F10=03B5.0313 1F11=03B5.0314 1F12=03B5.0313.0300 1F13=03B5.0314.0300",
  "1F14=03B5.0313.0301 1F15=03B5.0314.0301 1F18=0395.0313 1F19=0395.0314 1F1A=0395.0313.0300",
  "1F1B=0395.0314.0300 1F1C=0395.0313.0301 1F1D=0395.0314.0301 1F20=03B7.0313 1F21=03B7.0314",
  "1F22=03B7.0313.0300 1F23=03B7.0314.0300 1F24=03B7.0313.0301 1F25=03B7.0314.0301",
  "1F26=03B7.0313.0342 1F27=03B7.0314.0342 1F28=0397.0313 1F29=0397.0314 1F2A=0397.0313.0300",
  "1F2B=0397.0314.0300 1F2C=0397.0313.0301 1F2D=0397.0314.0301 1F2E=0397.0313.0342",
  "1F2F=0397.0314.0342 1F30=03B9.0313 1F31=03B9.0314 1F32=03B9.0313.0300 1F33=03B9.0314.0300",
  "1F34=03B9.0313.0301 1F35=03B9.0314.0301 1F36=03B9.0313.0342 1F37=03B9.0314.0342",
  "1F38=0399.0313 1F39=0399.0314 1F3A=0399.0313.0300 1F3B=0399.0314.0300 1F3C=0399.0313.0301",
  "1F3D=0399.0314.0301 1F3E=0399.0313.0342 1F3F=0399.0314.0342 1F40=03BF.0313 1F41=03BF.0314",
  "1F42=03BF.0313.0300 1F43=03BF.0314.0300 1F44=03BF.0313.0301 1F45=03BF.0314.0301",
  "1F48=039F.0313 1F49=039F.0314 1F4A=039F.0313.0300 1F4B=039F.0314.0300 1F4C=039F.0313.0301",
  "1F4D=039F.0314.0301 1F50=03C5.0313 1F51=03C5.0314 1F52=03C5.0313.0300 1F53=03C5.0314.0300",
  "1F54=03C5.0313.0301 1F55=03C5.0314.0301 1F56=03C5.0313.0342 1F57=03C5.0314.0342",
  "1F59=03A5.0314 1F5B=03A5.0314.0300 1F5D=03A5.0314.0301 1F5F=03A5.0314.0342 1F60=03C9.0313",
  "1F61=03C9.0314 1F62=03C9.0313.0300 1F63=03C9.0314.0300 1F64=03C9.0313.0301",
  "1F65=03C9.0314.0301 1F66=03C9.0313.0342 1F67=03C9.0314.0342 1F68=03A9.0313 1F69=03A9.0314",
  "1F6A=03A9.0313.0300 1F6B=03A9.0314.0300 1F6C=03A9.0313.0301 1F6D=03A9.0314.0301",
  "1F6E=03A9.0313.0342 1F6F=03A9.0314.0342 1F70=03B1.0300 1F71=03B1.0301 1F72=03B5.0300",
  "1F73=03B5.0301 1F74=03B7.0300 1F75=03B7.0301 1F76=03B9.0300 1F77=03B9.0301 1F78=03BF.0300",
  "1F79=03BF.0301 1F7A=03C5.0300 1F7B=03C5.0301 1F7C=03C9.0300 1F7D=03C9.0301",
  "1F80=03B1.0313.0345 1F81=03B1.0314.0345 1F82=03B1.0313.0300.0345 1F83=03B1.0314.0300.0345",
  "1F84=03B1.0313.0301.0345 1F85=03B1.0314.0301.0345 1F86=03B1.0313.0342.0345",
  "1F87=03B1.0314.0342.0345 1F88=0391.0313.0345 1F89=0391.0314.0345 1F8A=0391.0313.0300.0345",
  "1F8B=0391.0314.0300.0345 1F8C=0391.0313.0301.0345 1F8D=0391.0314.0301.0345",
  "1F8E=0391.0313.0342.0345 1F8F=0391.0314.0342.0345 1F90=03B7.0313.0345 1F91=03B7.0314.0345",
  "1F92=03B7.0313.0300.0345 1F93=03B7.0314.0300.0345 1F94=03B7.0313.0301.0345",
  "1F95=03B7.0314.0301.0345 1F96=03B7.0313.0342.0345 1F97=03B7.0314.0342.0345",
  "1F98=0397.0313.0345 1F99=0397.0314.0345 1F9A=0397.0313.0300.0345 1F9B=0397.0314.0300.0345",
  "1F9C=0397.0313.0301.0345 1F9D=0397.0314.0301.0345 1F9E=0397.0313.0342.0345",
  "1F9F=0397.0314.0342.0345 1FA0=03C9.0313.0345 1FA1=03C9.0314.0345 1FA2=03C9.0313.0300.0345",
  "1FA3=03C9.0314.0300.0345 1FA4=03C9.0313.0301.0345 1FA5=03C9.0314.0301.0345",
  "1FA6=03C9.0313.0342.0345 1FA7=03C9.0314.0342.0345 1FA8=03A9.0313.0345 1FA9=03A9.0314.0345",
  "1FAA=03A9.0313.0300.0345 1FAB=03A9.0314.0300.0345 1FAC=03A9.0313.0301.0345",
  "1FAD=03A9.0314.0301.0345 1FAE=03A9.0313.0342.0345 1FAF=03A9.0314.0342.0345 1FB0=03B1.0306",
  "1FB1=03B1.0304 1FB2=03B1.0300.0345 1FB3=03B1.0345 1FB4=03B1.0301.0345 1FB6=03B1.0342",
  "1FB7=03B1.0342.0345 1FB8=0391.0306 1FB9=0391.0304 1FBA=0391.0300 1FBB=0391.0301",
  "1FBC=0391.0345 1FBD=0020.0313 1FBE=03B9 1FBF=0020.0313 1FC0=0020.0342 1FC1=0020.0308.0342",
  "1FC2=03B7.0300.0345 1FC3=03B7.0345 1FC4=03B7.0301.0345 1FC6=03B7.0342 1FC7=03B7.0342.0345",
  "1FC8=0395.0300 1FC9=0395.0301 1FCA=0397.0300 1FCB=0397.0301 1FCC=0397.0345",
  "1FCD=0020.0313.0300 1FCE=0020.0313.0301 1FCF=0020.0313.0342 1FD0=03B9.0306 1FD1=03B9.0304",
  "1FD2=03B9.0308.0300 1FD3=03B9.0308.0301 1FD6=03B9.0342 1FD7=03B9.0308.0342 1FD8=0399.0306",
  "1FD9=0399.0304 1FDA=0399.0300 1FDB=0399.0301 1FDD=0020.0314.0300 1FDE=0020.0314.0301",
  "1FDF=0020.0314.0342 1FE0=03C5.0306 1FE1=03C5.0304 1FE2=03C5.0308.0300 1FE3=03C5.0308.0301",
  "1FE4=03C1.0313 1FE5=03C1.0314 1FE6=03C5.0342 1FE7=03C5.0308.0342 1FE8=03A5.0306",
  "1FE9=03A5.0304 1FEA=03A5.0300 1FEB=03A5.0301 1FEC=03A1.0314 1FED=0020.0308.0300",
  "1FEE=0020.0308.0301 1FEF=0060 1FF2=03C9.0300.0345 1FF3=03C9.0345 1FF4=03C9.0301.0345",
  "1FF6=03C9.0342 1FF7=03C9.0342.0345 1FF8=039F.0300 1FF9=039F.0301 1FFA=03A9.0300",
  "1FFB=03A9.0301 1FFC=03A9.0345 1FFD=0020.0301 1FFE=0020.0314 2000=0020 2001=0020 2002=0020",
  "2003=0020 2004=0020 2005=0020 2006=0020 2007=0020 2008=0020 2009=0020 200A=0020 2011=2010",
  "2017=0020.0333 2024=002E 2025=002E.002E 2026=002E.002E.002E 202F=0020 2033=2032.2032",
  "2034=2032.2032.2032 2036=2035.2035 2037=2035.2035.2035 203C=0021.0021 203E=0020.0305",
  "2047=003F.003F 2048=003F.0021 2049=0021.003F 2057=2032.2032.2032.2032 205F=0020 2070=0030",
  "2071=0069 2074-2079=0034 207A=002B 207B=2212 207C=003D 207D-207E=0028 207F=006E",
  "2080-2089=0030 208A=002B 208B=2212 208C=003D 208D-208E=0028 2090=0061 2091=0065 2092=006F",
  "2093=0078 2094=0259 2095=0068 2096-2099=006B 209A=0070 209B-209C=0073 209D=0077",
  "209E-209F=0079 20A8=0052.0073 2100=0061.002F.0063 2101=0061.002F.0073 2102=0043",
  "2103=00B0.0043 2105=0063.002F.006F 2106=0063.002F.0075 2107=0190 2109=00B0.0046 210A=0067",
  "210B=0048 210C=0048 210D=0048 210E=0068 210F=0127 2110=0049 2111=0049 2112=004C 2113=006C",
  "2115=004E 2116=004E.006F 2119-211B=0050 211C=0052 211D=0052 2120=0053.004D",
  "2121=0054.0045.004C 2122=0054.004D 2124=005A 2126=03A9 2128=005A 212A=004B 212B=0041.030A",
  "212C-212D=0042 212F=0065 2130-2131=0045 2133=004D 2134=006F 2135-2138=05D0 2139=0069",
  "213B=0046.0041.0058 213C=03C0 213D=03B3 213E=0393 213F=03A0 2140=2211 2145=0044",
  "2146-2147=0064 2148-2149=0069 2150=0031.2044.0037 2151=0031.2044.0039",
  "2152=0031.2044.0031.0030 2153=0031.2044.0033 2154=0032.2044.0033 2155=0031.2044.0035",
  "2156=0032.2044.0035 2157=0033.2044.0035 2158=0034.2044.0035 2159=0031.2044.0036",
  "215A=0035.2044.0036 215B=0031.2044.0038 215C=0033.2044.0038 215D=0035.2044.0038",
  "215E=0037.2044.0038 215F=0031.2044 2160=0049 2161=0049.0049 2162=0049.0049.0049",
  "2163=0049.0056 2164=0056 2165=0056.0049 2166=0056.0049.0049 2167=0056.0049.0049.0049",
  "2168=0049.0058 2169=0058 216A=0058.0049 216B=0058.0049.0049 216C=004C 216D-216E=0043",
  "216F=004D 2170=0069 2171=0069.0069 2172=0069.0069.0069 2173=0069.0076 2174=0076",
  "2175=0076.0069 2176=0076.0069.0069 2177=0076.0069.0069.0069 2178=0069.0078 2179=0078",
  "217A=0078.0069 217B=0078.0069.0069 217C=006C 217D-217E=0063 217F=006D 2189=0030.2044.0033",
  "219A=2190.0338 219B=2192.0338 21AE=2194.0338 21CD=21D0.0338 21CE=21D4.0338 21CF=21D2.0338",
  "2204=2203.0338 2209=2208.0338 220C=220B.0338 2224=2223.0338 2226=2225.0338 222C=222B.222B",
  "222D=222B.222B.222B 222F=222E.222E 2230=222E.222E.222E 2241=223C.0338 2244=2243.0338",
  "2247=2245.0338 2249=2248.0338 2260=003D.0338 2262=2261.0338 226D=224D.0338 226E=003C.0338",
  "226F=003E.0338 2270=2264.0338 2271=2265.0338 2274=2272.0338 2275=2273.0338 2278=2276.0338",
  "2279=2277.0338 2280=227A.0338 2281=227B.0338 2284=2282.0338 2285=2283.0338 2288=2286.0338",
  "2289=2287.0338 22AC=22A2.0338 22AD=22A8.0338 22AE=22A9.0338 22AF=22AB.0338 22E0=227C.0338",
  "22E1=227D.0338 22E2=2291.0338 22E3=2292.0338 22EA=22B2.0338 22EB=22B3.0338 22EC=22B4.0338",
  "22ED=22B5.0338 2329-232A=3008 2460-2468=0031 2469=0031.0030 246A=0031.0031 246B=0031.0032",
  "246C=0031.0033 246D=0031.0034 246E=0031.0035 246F=0031.0036 2470=0031.0037 2471=0031.0038",
  "2472=0031.0039 2473=0032.0030 2474=0028.0031.0029 2475=0028.0032.0029 2476=0028.0033.0029",
  "2477=0028.0034.0029 2478=0028.0035.0029 2479=0028.0036.0029 247A=0028.0037.0029",
  "247B=0028.0038.0029 247C=0028.0039.0029 247D=0028.0031.0030.0029 247E=0028.0031.0031.0029",
  "247F=0028.0031.0032.0029 2480=0028.0031.0033.0029 2481=0028.0031.0034.0029",
  "2482=0028.0031.0035.0029 2483=0028.0031.0036.0029 2484=0028.0031.0037.0029",
  "2485=0028.0031.0038.0029 2486=0028.0031.0039.0029 2487=0028.0032.0030.0029 2488=0031.002E",
  "2489=0032.002E 248A=0033.002E 248B=0034.002E 248C=0035.002E 248D=0036.002E 248E=0037.002E",
  "248F=0038.002E 2490=0039.002E 2491=0031.0030.002E 2492=0031.0031.002E 2493=0031.0032.002E",
  "2494=0031.0033.002E 2495=0031.0034.002E 2496=0031.0035.002E 2497=0031.0036.002E",
  "2498=0031.0037.002E 2499=0031.0038.002E 249A=0031.0039.002E 249B=0032.0030.002E",
  "249C=0028.0061.0029 249D=0028.0062.0029 249E=0028.0063.0029 249F=0028.0064.0029",
  "24A0=0028.0065.0029 24A1=0028.0066.0029 24A2=0028.0067.0029 24A3=0028.0068.0029",
  "24A4=0028.0069.0029 24A5=0028.006A.0029 24A6=0028.006B.0029 24A7=0028.006C.0029",
  "24A8=0028.006D.0029 24A9=0028.006E.0029 24AA=0028.006F.0029 24AB=0028.0070.0029",
  "24AC=0028.0071.0029 24AD=0028.0072.0029 24AE=0028.0073.0029 24AF=0028.0074.0029",
  "24B0=0028.0075.0029 24B1=0028.0076.0029 24B2=0028.0077.0029 24B3=0028.0078.0029",
  "24B4=0028.0079.0029 24B5=0028.007A.0029 24B6-24CF=0041 24D0-24E9=0061 24EA=0030",
  "2A0C=222B.222B.222B.222B 2A74=003A.003A.003D 2A75=003D.003D 2A76=003D.003D.003D",
  "2ADC=2ADD.0338 2C7C=006A 2C7D=0056 2D6F=2D61 2E9F=6BCD 2EF3=9F9F 2F00=4E00 2F01=4E28",
  "2F02=4E36 2F03=4E3F 2F04=4E59 2F05=4E85 2F06=4E8C 2F07=4EA0 2F08=4EBA 2F09=513F 2F0A=5165",
  "2F0B=516B 2F0C=5182 2F0D=5196 2F0E=51AB 2F0F=51E0 2F10=51F5 2F11=5200 2F12=529B 2F13=52F9",
  "2F14=5315 2F15=531A 2F16=5338 2F17=5341 2F18=535C 2F19=5369 2F1A=5382 2F1B=53B6 2F1C=53C8",
  "2F1D=53E3 2F1E=56D7 2F1F=571F 2F20=58EB 2F21=5902 2F22=590A 2F23=5915 2F24=5927 2F25=5973",
  "2F26=5B50 2F27=5B80 2F28=5BF8 2F29=5C0F 2F2A=5C22 2F2B=5C38 2F2C=5C6E 2F2D=5C71 2F2E=5DDB",
  "2F2F=5DE5 2F30=5DF1 2F31=5DFE 2F32=5E72 2F33=5E7A 2F34=5E7F 2F35=5EF4 2F36=5EFE 2F37=5F0B",
  "2F38=5F13 2F39=5F50 2F3A=5F61 2F3B=5F73 2F3C=5FC3 2F3D=6208 2F3E=6236 2F3F=624B 2F40=652F",
  "2F41=6534 2F42=6587 2F43=6597 2F44=65A4 2F45=65B9 2F46=65E0 2F47=65E5 2F48=66F0 2F49=6708",
  "2F4A=6728 2F4B=6B20 2F4C=6B62 2F4D=6B79 2F4E=6BB3 2F4F=6BCB 2F50=6BD4 2F51=6BDB 2F52=6C0F",
  "2F53=6C14 2F54=6C34 2F55=706B 2F56=722A 2F57=7236 2F58=723B 2F59=723F 2F5A=7247 2F5B=7259",
  "2F5C=725B 2F5D=72AC 2F5E=7384 2F5F=7389 2F60=74DC 2F61=74E6 2F62=7518 2F63=751F 2F64=7528",
  "2F65=7530 2F66=758B 2F67=7592 2F68=7676 2F69=767D 2F6A=76AE 2F6B=76BF 2F6C=76EE 2F6D=77DB",
  "2F6E=77E2 2F6F=77F3 2F70=793A 2F71=79B8 2F72=79BE 2F73=7A74 2F74=7ACB 2F75=7AF9 2F76=7C73",
  "2F77=7CF8 2F78=7F36 2F79=7F51 2F7A=7F8A 2F7B=7FBD 2F7C=8001 2F7D=800C 2F7E=8012 2F7F=8033",
  "2F80=807F 2F81=8089 2F82=81E3 2F83=81EA 2F84=81F3 2F85=81FC 2F86=820C 2F87=821B 2F88=821F",
  "2F89=826E 2F8A=8272 2F8B=8278 2F8C=864D 2F8D=866B 2F8E=8840 2F8F=884C 2F90=8863 2F91=897E",
  "2F92=898B 2F93=89D2 2F94=8A00 2F95=8C37 2F96=8C46 2F97=8C55 2F98=8C78 2F99=8C9D 2F9A=8D64",
  "2F9B=8D70 2F9C=8DB3 2F9D=8EAB 2F9E=8ECA 2F9F=8F9B 2FA0=8FB0 2FA1=8FB5 2FA2=9091 2FA3=9149",
  "2FA4=91C6 2FA5=91CC 2FA6=91D1 2FA7=9577 2FA8=9580 2FA9=961C 2FAA=96B6 2FAB=96B9 2FAC=96E8",
  "2FAD=9751 2FAE=975E 2FAF=9762 2FB0=9769 2FB1=97CB 2FB2=97ED 2FB3=97F3 2FB4=9801 2FB5=98A8",
  "2FB6=98DB 2FB7=98DF 2FB8=9996 2FB9=9999 2FBA=99AC 2FBB=9AA8 2FBC=9AD8 2FBD=9ADF 2FBE=9B25",
  "2FBF=9B2F 2FC0=9B32 2FC1=9B3C 2FC2=9B5A 2FC3=9CE5 2FC4=9E75 2FC5=9E7F 2FC6=9EA5 2FC7=9EBB",
  "2FC8=9EC3 2FC9=9ECD 2FCA=9ED1 2FCB=9EF9 2FCC=9EFD 2FCD=9F0E 2FCE=9F13 2FCF=9F20 2FD0=9F3B",
  "2FD1=9F4A 2FD2=9F52 2FD3=9F8D 2FD4=9F9C 2FD5=9FA0 3000=0020 3036=3012 3038=5341",
  "3039-303A=5344 304C=304B.3099 304E=304D.3099 3050=304F.3099 3052=3051.3099 3054=3053.3099",
  "3056=3055.3099 3058=3057.3099 305A=3059.3099 305C=305B.3099 305E=305D.3099 3060=305F.3099",
  "3062=3061.3099 3065=3064.3099 3067=3066.3099 3069=3068.3099 3070=306F.3099 3071=306F.309A",
  "3073=3072.3099 3074=3072.309A 3076=3075.3099 3077=3075.309A 3079=3078.3099 307A=3078.309A",
  "307C=307B.3099 307D=307B.309A 3094=3046.3099 309B=0020.3099 309C=0020.309A 309E=309D.3099",
  "309F=3088.308A 30AC=30AB.3099 30AE=30AD.3099 30B0=30AF.3099 30B2=30B1.3099 30B4=30B3.3099",
  "30B6=30B5.3099 30B8=30B7.3099 30BA=30B9.3099 30BC=30BB.3099 30BE=30BD.3099 30C0=30BF.3099",
  "30C2=30C1.3099 30C5=30C4.3099 30C7=30C6.3099 30C9=30C8.3099 30D0=30CF.3099 30D1=30CF.309A",
  "30D3=30D2.3099 30D4=30D2.309A 30D6=30D5.3099 30D7=30D5.309A 30D9=30D8.3099 30DA=30D8.309A",
  "30DC=30DB.3099 30DD=30DB.309A 30F4=30A6.3099 30F7=30EF.3099 30F8=30F0.3099 30F9=30F1.3099",
  "30FA=30F2.3099 30FE=30FD.3099 30FF=30B3.30C8 3131-3132=1100 3133=11AA 3134=1102",
  "3135-3136=11AC 3137-3139=1103 313A-313F=11B0 3140=111A 3141-3143=1106 3144=1121",
  "3145-314E=1109 314F-3163=1161 3164=1160 3165-3166=1114 3167-3168=11C7 3169=11CC 316A=11CE",
  "316B=11D3 316C=11D7 316D=11D9 316E=111C 316F=11DD 3170=11DF 3171-3172=111D 3173=1120",
  "3174-3175=1122 3176=1127 3177=1129 3178-317C=112B 317D=1132 317E=1136 317F=1140 3180=1147",
  "3181=114C 3182-3183=11F1 3184-3186=1157 3187-3188=1184 3189=1188 318A-318B=1191 318C=1194",
  "318D=119E 318E=11A1 3192=4E00 3193=4E8C 3194=4E09 3195=56DB 3196=4E0A 3197=4E2D 3198=4E0B",
  "3199=7532 319A=4E59 319B=4E19 319C=4E01 319D=5929 319E=5730 319F=4EBA 3200=0028.1100.0029",
  "3201=0028.1102.0029 3202=0028.1103.0029 3203=0028.1105.0029 3204=0028.1106.0029",
  "3205=0028.1107.0029 3206=0028.1109.0029 3207=0028.110B.0029 3208=0028.110C.0029",
  "3209=0028.110E.0029 320A=0028.110F.0029 320B=0028.1110.0029 320C=0028.1111.0029",
  "320D=0028.1112.0029 320E=0028.1100.1161.0029 320F=0028.1102.1161.0029",
  "3210=0028.1103.1161.0029 3211=0028.1105.1161.0029 3212=0028.1106.1161.0029",
  "3213=0028.1107.1161.0029 3214=0028.1109.1161.0029 3215=0028.110B.1161.0029",
  "3216=0028.110C.1161.0029 3217=0028.110E.1161.0029 3218=0028.110F.1161.0029",
  "3219=0028.1110.1161.0029 321A=0028.1111.1161.0029 321B=0028.1112.1161.0029",
  "321C=0028.110C.116E.0029 321D=0028.110B.1169.110C.1165.11AB.0029",
  "321E=0028.110B.1169.1112.116E.0029 3220=0028.4E00.0029 3221=0028.4E8C.0029",
  "3222=0028.4E09.0029 3223=0028.56DB.0029 3224=0028.4E94.0029 3225=0028.516D.0029",
  "3226=0028.4E03.0029 3227=0028.516B.0029 3228=0028.4E5D.0029 3229=0028.5341.0029",
  "322A=0028.6708.0029 322B=0028.706B.0029 322C=0028.6C34.0029 322D=0028.6728.0029",
  "322E=0028.91D1.0029 322F=0028.571F.0029 3230=0028.65E5.0029 3231=0028.682A.0029",
  "3232=0028.6709.0029 3233=0028.793E.0029 3234=0028.540D.0029 3235=0028.7279.0029",
  "3236=0028.8CA1.0029 3237=0028.795D.0029 3238=0028.52B4.0029 3239=0028.4EE3.0029",
  "323A=0028.547C.0029 323B=0028.5B66.0029 323C=0028.76E3.0029 323D=0028.4F01.0029",
  "323E=0028.8CC7.0029 323F=0028.5354.0029 3240=0028.796D.0029 3241=0028.4F11.0029",
  "3242=0028.81EA.0029 3243=0028.81F3.0029 3244=554F 3245=5E7C 3246=6587 3247=7B8F",
  "3250=0050.0054.0045 3251=0032.0031 3252=0032.0032 3253=0032.0033 3254=0032.0034",
  "3255=0032.0035 3256=0032.0036 3257=0032.0037 3258=0032.0038 3259=0032.0039 325A=0033.0030",
  "325B=0033.0031 325C=0033.0032 325D=0033.0033 325E=0033.0034 325F=0033.0035 3260=1100",
  "3261-3262=1102 3263-3265=1105 3266=1109 3267-3268=110B 3269-326D=110E 326E=1100.1161",
  "326F=1102.1161 3270=1103.1161 3271=1105.1161 3272=1106.1161 3273=1107.1161 3274=1109.1161",
  "3275=110B.1161 3276=110C.1161 3277=110E.1161 3278=110F.1161 3279=1110.1161 327A=1111.1161",
  "327B=1112.1161 327C=110E.1161.11B7.1100.1169 327D=110C.116E.110B.1174 327E=110B.116E",
  "3280=4E00 3281=4E8C 3282=4E09 3283=56DB 3284=4E94 3285=516D 3286=4E03 3287=516B 3288=4E5D",
  "3289=5341 328A=6708 328B=706B 328C=6C34 328D=6728 328E=91D1 328F=571F 3290=65E5 3291=682A",
  "3292=6709 3293=793E 3294=540D 3295=7279 3296=8CA1 3297=795D 3298=52B4 3299=79D8 329A=7537",
  "329B=5973 329C=9069 329D=512A 329E=5370 329F=6CE8 32A0=9805 32A1=4F11 32A2=5199 32A3=6B63",
  "32A4=4E0A 32A5=4E2D 32A6=4E0B 32A7=5DE6 32A8=53F3 32A9=533B 32AA=5B97 32AB=5B66 32AC=76E3",
  "32AD=4F01 32AE=8CC7 32AF=5354 32B0=591C 32B1=0033.0036 32B2=0033.0037 32B3=0033.0038",
  "32B4=0033.0039 32B5=0034.0030 32B6=0034.0031 32B7=0034.0032 32B8=0034.0033 32B9=0034.0034",
  "32BA=0034.0035 32BB=0034.0036 32BC=0034.0037 32BD=0034.0038 32BE=0034.0039 32BF=0035.0030",
  "32C0=0031.6708 32C1=0032.6708 32C2=0033.6708 32C3=0034.6708 32C4=0035.6708 32C5=0036.6708",
  "32C6=0037.6708 32C7=0038.6708 32C8=0039.6708 32C9=0031.0030.6708 32CA=0031.0031.6708",
  "32CB=0031.0032.6708 32CC=0048.0067 32CD=0065.0072.0067 32CE=0065.0056 32CF=004C.0054.0044",
  "32D0=30A2 32D1=30A4 32D2=30A6 32D3=30A8 32D4-32D5=30AA 32D6=30AD 32D7=30AF 32D8=30B1",
  "32D9=30B3 32DA=30B5 32DB=30B7 32DC=30B9 32DD=30BB 32DE=30BD 32DF=30BF 32E0=30C1 32E1=30C4",
  "32E2=30C6 32E3=30C8 32E4-32E9=30CA 32EA=30D2 32EB=30D5 32EC=30D8 32ED=30DB 32EE-32F2=30DE",
  "32F3=30E4 32F4=30E6 32F5-32FA=30E8 32FB-32FE=30EF 32FF=4EE4.548C",
  "3300=30A2.30CF.309A.30FC.30C8 3301=30A2.30EB.30D5.30A1 3302=30A2.30F3.30D8.309A.30A2",
  "3303=30A2.30FC.30EB 3304=30A4.30CB.30F3.30AF.3099 3305=30A4.30F3.30C1 3306=30A6.30A9.30F3",
  "3307=30A8.30B9.30AF.30FC.30C8.3099 3308=30A8.30FC.30AB.30FC 3309=30AA.30F3.30B9",
  "330A=30AA.30FC.30E0 330B=30AB.30A4.30EA 330C=30AB.30E9.30C3.30C8 330D=30AB.30ED.30EA.30FC",
  "330E=30AB.3099.30ED.30F3 330F=30AB.3099.30F3.30DE 3310=30AD.3099.30AB.3099",
  "3311=30AD.3099.30CB.30FC 3312=30AD.30E5.30EA.30FC 3313=30AD.3099.30EB.30BF.3099.30FC",
  "3314=30AD.30ED 3315=30AD.30ED.30AF.3099.30E9.30E0 3316=30AD.30ED.30E1.30FC.30C8.30EB",
  "3317=30AD.30ED.30EF.30C3.30C8 3318=30AF.3099.30E9.30E0 3319=30AF.3099.30E9.30E0.30C8.30F3",
  "331A=30AF.30EB.30BB.3099.30A4.30ED 331B=30AF.30ED.30FC.30CD 331C=30B1.30FC.30B9",
  "331D=30B3.30EB.30CA 331E=30B3.30FC.30DB.309A 331F=30B5.30A4.30AF.30EB",
  "3320=30B5.30F3.30C1.30FC.30E0 3321=30B7.30EA.30F3.30AF.3099 3322=30BB.30F3.30C1",
  "3323=30BB.30F3.30C8 3324=30BF.3099.30FC.30B9 3325=30C6.3099.30B7 3326=30C8.3099.30EB",
  "3327=30C8.30F3 3328=30CA.30CE 3329=30CE.30C3.30C8 332A=30CF.30A4.30C4",
  "332B=30CF.309A.30FC.30BB.30F3.30C8 332C=30CF.309A.30FC.30C4 332D=30CF.3099.30FC.30EC.30EB",
  "332E=30D2.309A.30A2.30B9.30C8.30EB 332F=30D2.309A.30AF.30EB 3330=30D2.309A.30B3",
  "3331=30D2.3099.30EB 3332=30D5.30A1.30E9.30C3.30C8.3099 3333=30D5.30A3.30FC.30C8",
  "3334=30D5.3099.30C3.30B7.30A7.30EB 3335=30D5.30E9.30F3 3336=30D8.30AF.30BF.30FC.30EB",
  "3337=30D8.309A.30BD 3338=30D8.309A.30CB.30D2 3339=30D8.30EB.30C4 333A=30D8.309A.30F3.30B9",
  "333B=30D8.309A.30FC.30B7.3099 333C=30D8.3099.30FC.30BF 333D=30DB.309A.30A4.30F3.30C8",
  "333E=30DB.3099.30EB.30C8 333F=30DB.30F3 3340=30DB.309A.30F3.30C8.3099 3341=30DB.30FC.30EB",
  "3342=30DB.30FC.30F3 3343=30DE.30A4.30AF.30ED 3344=30DE.30A4.30EB 3345=30DE.30C3.30CF",
  "3346=30DE.30EB.30AF 3347=30DE.30F3.30B7.30E7.30F3 3348=30DF.30AF.30ED.30F3 3349=30DF.30EA",
  "334A=30DF.30EA.30CF.3099.30FC.30EB 334B=30E1.30AB.3099 334C=30E1.30AB.3099.30C8.30F3",
  "334D=30E1.30FC.30C8.30EB 334E=30E4.30FC.30C8.3099 334F=30E4.30FC.30EB 3350=30E6.30A2.30F3",
  "3351=30EA.30C3.30C8.30EB 3352=30EA.30E9 3353=30EB.30D2.309A.30FC",
  "3354=30EB.30FC.30D5.3099.30EB 3355=30EC.30E0 3356=30EC.30F3.30C8.30B1.3099.30F3",
  "3357=30EF.30C3.30C8 3358=0030.70B9 3359=0031.70B9 335A=0032.70B9 335B=0033.70B9",
  "335C=0034.70B9 335D=0035.70B9 335E=0036.70B9 335F=0037.70B9 3360=0038.70B9 3361=0039.70B9",
  "3362=0031.0030.70B9 3363=0031.0031.70B9 3364=0031.0032.70B9 3365=0031.0033.70B9",
  "3366=0031.0034.70B9 3367=0031.0035.70B9 3368=0031.0036.70B9 3369=0031.0037.70B9",
  "336A=0031.0038.70B9 336B=0031.0039.70B9 336C=0032.0030.70B9 336D=0032.0031.70B9",
  "336E=0032.0032.70B9 336F=0032.0033.70B9 3370=0032.0034.70B9 3371=0068.0050.0061",
  "3372=0064.0061 3373=0041.0055 3374=0062.0061.0072 3375=006F.0056 3376=0070.0063",
  "3377=0064.006D 3378=0064.006D.0032 3379=0064.006D.0033 337A=0049.0055 337B=5E73.6210",
  "337C=662D.548C 337D=5927.6B63 337E=660E.6CBB 337F=682A.5F0F.4F1A.793E 3380=0070.0041",
  "3381=006E.0041 3382=03BC.0041 3383=006D.0041 3384=006B.0041 3385=004B.0042 3386=004D.0042",
  "3387=0047.0042 3388=0063.0061.006C 3389=006B.0063.0061.006C 338A=0070.0046 338B=006E.0046",
  "338C=03BC.0046 338D=03BC.0067 338E=006D.0067 338F=006B.0067 3390=0048.007A",
  "3391=006B.0048.007A 3392=004D.0048.007A 3393=0047.0048.007A 3394=0054.0048.007A",
  "3395=03BC.006C 3396=006D.006C 3397=0064.006C 3398=006B.006C 3399=0066.006D 339A=006E.006D",
  "339B=03BC.006D 339C=006D.006D 339D=0063.006D 339E=006B.006D 339F=006D.006D.0032",
  "33A0=0063.006D.0032 33A1=006D.0032 33A2=006B.006D.0032 33A3=006D.006D.0033",
  "33A4=0063.006D.0033 33A5=006D.0033 33A6=006B.006D.0033 33A7=006D.2215.0073",
  "33A8=006D.2215.0073.0032 33A9=0050.0061 33AA=006B.0050.0061 33AB=004D.0050.0061",
  "33AC=0047.0050.0061 33AD=0072.0061.0064 33AE=0072.0061.0064.2215.0073",
  "33AF=0072.0061.0064.2215.0073.0032 33B0=0070.0073 33B1=006E.0073 33B2=03BC.0073",
  "33B3=006D.0073 33B4=0070.0056 33B5=006E.0056 33B6=03BC.0056 33B7=006D.0056 33B8=006B.0056",
  "33B9=004D.0056 33BA=0070.0057 33BB=006E.0057 33BC=03BC.0057 33BD=006D.0057 33BE=006B.0057",
  "33BF=004D.0057 33C0=006B.03A9 33C1=004D.03A9 33C2=0061.002E.006D.002E 33C3=0042.0071",
  "33C4=0063.0063 33C5=0063.0064 33C6=0043.2215.006B.0067 33C7=0043.006F.002E 33C8=0064.0042",
  "33C9=0047.0079 33CA=0068.0061 33CB=0048.0050 33CC=0069.006E 33CD=004B.004B 33CE=004B.004D",
  "33CF=006B.0074 33D0=006C.006D 33D1=006C.006E 33D2=006C.006F.0067 33D3=006C.0078",
  "33D4=006D.0062 33D5=006D.0069.006C 33D6=006D.006F.006C 33D7=0050.0048",
  "33D8=0070.002E.006D.002E 33D9=0050.0050.004D 33DA=0050.0052 33DB=0073.0072 33DC=0053.0076",
  "33DD=0057.0062 33DE=0056.2215.006D 33DF=0041.2215.006D 33E0=0031.65E5 33E1=0032.65E5",
  "33E2=0033.65E5 33E3=0034.65E5 33E4=0035.65E5 33E5=0036.65E5 33E6=0037.65E5 33E7=0038.65E5",
  "33E8=0039.65E5 33E9=0031.0030.65E5 33EA=0031.0031.65E5 33EB=0031.0032.65E5",
  "33EC=0031.0033.65E5 33ED=0031.0034.65E5 33EE=0031.0035.65E5 33EF=0031.0036.65E5",
  "33F0=0031.0037.65E5 33F1=0031.0038.65E5 33F2=0031.0039.65E5 33F3=0032.0030.65E5",
  "33F4=0032.0031.65E5 33F5=0032.0032.65E5 33F6=0032.0033.65E5 33F7=0032.0034.65E5",
  "33F8=0032.0035.65E5 33F9=0032.0036.65E5 33FA=0032.0037.65E5 33FB=0032.0038.65E5",
  "33FC=0032.0039.65E5 33FD=0033.0030.65E5 33FE=0033.0031.65E5 33FF=0067.0061.006C A69C=044A",
  "A69D=044C A770=A76F A7F1=0053 A7F2=0043 A7F3=0046 A7F4=0051 A7F8=0126 A7F9=0153 AB5C=A727",
  "AB5D=AB37 AB5E=026B AB5F=AB52 AB69=028D F900=8C48 F901=66F4 F902=8ECA F903=8CC8 F904=6ED1",
  "F905=4E32 F906=53E5 F907=9F9C F908=9F9C F909=5951 F90A=91D1 F90B=5587 F90C=5948 F90D=61F6",
  "F90E=7669 F90F=7F85 F910=863F F911=87BA F912=88F8 F913=908F F914=6A02 F915=6D1B F916=70D9",
  "F917=73DE F918=843D F919=916A F91A=99F1 F91B=4E82 F91C=5375 F91D=6B04 F91E=721B F91F=862D",
  "F920=9E1E F921=5D50 F922=6FEB F923=85CD F924=8964 F925=62C9 F926=81D8 F927=881F F928=5ECA",
  "F929=6717 F92A=6D6A F92B=72FC F92C=90CE F92D=4F86 F92E=51B7 F92F=52DE F930=64C4 F931=6AD3",
  "F932=7210 F933=76E7 F934=8001 F935=8606 F936=865C F937=8DEF F938=9732 F939=9B6F F93A=9DFA",
  "F93B=788C F93C=797F F93D=7DA0 F93E=83C9 F93F=9304 F940=9E7F F941=8AD6 F942=58DF F943=5F04",
  "F944=7C60 F945=807E F946=7262 F947=78CA F948=8CC2 F949=96F7 F94A=58D8 F94B=5C62 F94C=6A13",
  "F94D=6DDA F94E=6F0F F94F=7D2F F950=7E37 F951=964B F952=52D2 F953=808B F954=51DC F955=51CC",
  "F956=7A1C F957=7DBE F958=83F1 F959=9675 F95A=8B80 F95B=62CF F95C=6A02 F95D=8AFE F95E=4E39",
  "F95F=5BE7 F960=6012 F961=7387 F962=7570 F963=5317 F964=78FB F965=4FBF F966=5FA9 F967=4E0D",
  "F968=6CCC F969=6578 F96A=7D22 F96B=53C3 F96C=585E F96D=7701 F96E=8449 F96F=8AAA F970=6BBA",
  "F971=8FB0 F972=6C88 F973=62FE F974=82E5 F975=63A0 F976=7565 F977=4EAE F978=5169 F979=51C9",
  "F97A=6881 F97B=7CE7 F97C=826F F97D=8AD2 F97E=91CF F97F=52F5 F980=5442 F981=5973 F982=5EEC",
  "F983=65C5 F984=6FFE F985=792A F986=95AD F987=9A6A F988=9E97 F989=9ECE F98A=529B F98B=66C6",
  "F98C=6B77 F98D=8F62 F98E=5E74 F98F=6190 F990=6200 F991=649A F992=6F23 F993=7149 F994=7489",
  "F995=79CA F996=7DF4 F997=806F F998=8F26 F999=84EE F99A=9023 F99B=934A F99C=5217 F99D=52A3",
  "F99E=54BD F99F=70C8 F9A0=88C2 F9A1=8AAA F9A2=5EC9 F9A3=5FF5 F9A4=637B F9A5=6BAE F9A6=7C3E",
  "F9A7=7375 F9A8=4EE4 F9A9=56F9 F9AA=5BE7 F9AB=5DBA F9AC=601C F9AD=73B2 F9AE=7469 F9AF=7F9A",
  "F9B0=8046 F9B1=9234 F9B2=96F6 F9B3=9748 F9B4=9818 F9B5=4F8B F9B6=79AE F9B7=91B4 F9B8=96B8",
  "F9B9=60E1 F9BA=4E86 F9BB=50DA F9BC=5BEE F9BD=5C3F F9BE=6599 F9BF=6A02 F9C0=71CE F9C1=7642",
  "F9C2=84FC F9C3=907C F9C4=9F8D F9C5=6688 F9C6=962E F9C7=5289 F9C8=677B F9C9=67F3 F9CA=6D41",
  "F9CB=6E9C F9CC=7409 F9CD=7559 F9CE=786B F9CF=7D10 F9D0=985E F9D1=516D F9D2=622E F9D3=9678",
  "F9D4=502B F9D5=5D19 F9D6=6DEA F9D7=8F2A F9D8=5F8B F9D9=6144 F9DA=6817 F9DB=7387 F9DC=9686",
  "F9DD=5229 F9DE=540F F9DF=5C65 F9E0=6613 F9E1=674E F9E2=68A8 F9E3=6CE5 F9E4=7406 F9E5=75E2",
  "F9E6=7F79 F9E7=88CF F9E8=88E1 F9E9=91CC F9EA=96E2 F9EB=533F F9EC=6EBA F9ED=541D F9EE=71D0",
  "F9EF=7498 F9F0=85FA F9F1=96A3 F9F2=9C57 F9F3=9E9F F9F4=6797 F9F5=6DCB F9F6=81E8 F9F7=7ACB",
  "F9F8=7B20 F9F9=7C92 F9FA=72C0 F9FB=7099 F9FC=8B58 F9FD=4EC0 F9FE=8336 F9FF=523A FA00=5207",
  "FA01=5EA6 FA02=62D3 FA03=7CD6 FA04=5B85 FA05=6D1E FA06=66B4 FA07=8F3B FA08=884C FA09=964D",
  "FA0A=898B FA0B=5ED3 FA0C=5140 FA0D=55C0 FA10=585A FA12=6674 FA15=51DE FA16=732A FA17=76CA",
  "FA18=793C FA19=795E FA1A=7965 FA1B=798F FA1C=9756 FA1D=7CBE FA1E=7FBD FA20=8612 FA22=8AF8",
  "FA25=9038 FA26=90FD FA2A=98EF FA2B=98FC FA2C=9928 FA2D=9DB4 FA2E=90DE FA2F=96B7 FA30=4FAE",
  "FA31=50E7 FA32=514D FA33=52C9 FA34=52E4 FA35=5351 FA36=559D FA37=5606 FA38=5668 FA39=5840",
  "FA3A=58A8 FA3B=5C64 FA3C=5C6E FA3D=6094 FA3E=6168 FA3F=618E FA40=61F2 FA41=654F FA42=65E2",
  "FA43=6691 FA44=6885 FA45=6D77 FA46=6E1A FA47=6F22 FA48=716E FA49=722B FA4A=7422 FA4B=7891",
  "FA4C=793E FA4D=7949 FA4E=7948 FA4F=7950 FA50=7956 FA51=795D FA52-FA53=798D FA54=7A40",
  "FA55=7A81 FA56=7BC0 FA57=7DF4 FA58=7E09 FA59=7E41 FA5A=7F72 FA5B=8005 FA5C=81ED FA5D=8279",
  "FA5E=8279 FA5F=8457 FA60=8910 FA61=8996 FA62=8B01 FA63=8B39 FA64=8CD3 FA65=8D08 FA66=8FB6",
  "FA67=9038 FA68=96E3 FA69=97FF FA6A=983B FA6B=6075 FA6C=242EE FA6D=8218 FA70=4E26 FA71=51B5",
  "FA72=5168 FA73=4F80 FA74=5145 FA75=5180 FA76=52C7 FA77=52FA FA78=559D FA79=5555 FA7A=5599",
  "FA7B=55E2 FA7C=585A FA7D=58B3 FA7E=5944 FA7F=5954 FA80=5A62 FA81=5B28 FA82=5ED2 FA83=5ED9",
  "FA84=5F69 FA85=5FAD FA86=60D8 FA87=614E FA88=6108 FA89=618E FA8A=6160 FA8B=61F2 FA8C=6234",
  "FA8D=63C4 FA8E=641C FA8F=6452 FA90=6556 FA91=6674 FA92=6717 FA93=671B FA94=6756 FA95=6B79",
  "FA96=6BBA FA97=6D41 FA98=6EDB FA99=6ECB FA9A=6F22 FA9B=701E FA9C=716E FA9D=77A7 FA9E=7235",
  "FA9F=72AF FAA0=732A FAA1=7471 FAA2=7506 FAA3=753B FAA4=761D FAA5=761F FAA6=76CA FAA7=76DB",
  "FAA8=76F4 FAA9=774A FAAA=7740 FAAB=78CC FAAC=7AB1 FAAD=7BC0 FAAE=7C7B FAAF=7D5B FAB0=7DF4",
  "FAB1=7F3E FAB2=8005 FAB3=8352 FAB4=83EF FAB5=8779 FAB6=8941 FAB7=8986 FAB8=8996 FAB9=8ABF",
  "FABA=8AF8 FABB=8ACB FABC=8B01 FABD=8AFE FABE=8AED FABF=8B39 FAC0=8B8A FAC1=8D08 FAC2=8F38",
  "FAC3=9072 FAC4=9199 FAC5=9276 FAC6=967C FAC7=96E3 FAC8=9756 FAC9=97DB FACA=97FF FACB=980B",
  "FACC=983B FACD=9B12 FACE=9F9C FACF=2284A FAD0=22844 FAD1=233D5 FAD2=3B9D FAD3=4018 FAD4=4039",
  "FAD5=25249 FAD6=25CD0 FAD7=27ED3 FAD8=9F43 FAD9=9F8E FB00=0066.0066 FB01=0066.0069",
  "FB02=0066.006C FB03=0066.0066.0069 FB04=0066.0066.006C FB05=0073.0074 FB06=0073.0074",
  "FB13=0574.0576 FB14=0574.0565 FB15=0574.056B FB16=057E.0576 FB17=0574.056D FB1D=05D9.05B4",
  "FB1F=05F2.05B7 FB20=05E2 FB21=05D0 FB22-FB23=05D3 FB24-FB26=05DB FB27=05E8 FB28=05EA",
  "FB29=002B FB2A=05E9.05C1 FB2B=05E9.05C2 FB2C=05E9.05BC.05C1 FB2D=05E9.05BC.05C2",
  "FB2E=05D0.05B7 FB2F=05D0.05B8 FB30=05D0.05BC FB31=05D1.05BC FB32=05D2.05BC FB33=05D3.05BC",
  "FB34=05D4.05BC FB35=05D5.05BC FB36=05D6.05BC FB38=05D8.05BC FB39=05D9.05BC FB3A=05DA.05BC",
  "FB3B=05DB.05BC FB3C=05DC.05BC FB3E=05DE.05BC FB40=05E0.05BC FB41=05E1.05BC FB43=05E3.05BC",
  "FB44=05E4.05BC FB46=05E6.05BC FB47=05E7.05BC FB48=05E8.05BC FB49=05E9.05BC FB4A=05EA.05BC",
  "FB4B=05D5.05B9 FB4C=05D1.05BF FB4D=05DB.05BF FB4E=05E4.05BF FB4F=05D0.05DC FB50=0671",
  "FB51=0671 FB52=067B FB53=067B FB54=067B FB55=067B FB56=067E FB57=067E FB58=067E FB59=067E",
  "FB5A=0680 FB5B=0680 FB5C=0680 FB5D=0680 FB5E=067A FB5F=067A FB60=067A FB61=067A FB62=067F",
  "FB63=067F FB64=067F FB65=067F FB66=0679 FB67=0679 FB68=0679 FB69=0679 FB6A=06A4 FB6B=06A4",
  "FB6C=06A4 FB6D=06A4 FB6E=06A6 FB6F=06A6 FB70=06A6 FB71=06A6 FB72=0684 FB73=0684 FB74=0684",
  "FB75=0684 FB76=0683 FB77=0683 FB78=0683 FB79=0683 FB7A=0686 FB7B=0686 FB7C=0686",
  "FB7D-FB7E=0686 FB7F=0687 FB80=0687 FB81=0687 FB82=068D FB83=068D FB84=068C FB85=068C",
  "FB86=068E FB87=068E FB88=0688 FB89=0688 FB8A=0698 FB8B=0698 FB8C=0691 FB8D=0691 FB8E=06A9",
  "FB8F=06A9 FB90=06A9 FB91=06A9 FB92=06AF FB93=06AF FB94=06AF FB95=06AF FB96=06B3 FB97=06B3",
  "FB98=06B3 FB99=06B3 FB9A=06B1 FB9B=06B1 FB9C=06B1 FB9D=06B1 FB9E=06BA FB9F-FBA0=06BA",
  "FBA1=06BB FBA2=06BB FBA3=06BB FBA4=06D5.0654 FBA5=06D5.0654 FBA6=06C1 FBA7=06C1 FBA8=06C1",
  "FBA9=06C1 FBAA=06BE FBAB=06BE FBAC=06BE FBAD=06BE FBAE=06D2 FBAF=06D2 FBB0=06D2.0654",
  "FBB1=06D2.0654 FBD3=06AD FBD4=06AD FBD5=06AD FBD6=06AD FBD7=06C7 FBD8=06C7 FBD9=06C6",
  "FBDA=06C6 FBDB=06C8 FBDC=06C8 FBDD=06C7.0674 FBDE=06CB FBDF=06CB FBE0=06C5 FBE1=06C5",
  "FBE2=06C9 FBE3=06C9 FBE4=06D0 FBE5=06D0 FBE6=06D0 FBE7=06D0 FBE8=0649 FBE9=0649",
  "FBEA=064A.0654.0627 FBEB=064A.0654.0627 FBEC=064A.0654.06D5 FBED=064A.0654.06D5",
  "FBEE=064A.0654.0648 FBEF=064A.0654.0648 FBF0=064A.0654.06C7 FBF1=064A.0654.06C7",
  "FBF2=064A.0654.06C6 FBF3=064A.0654.06C6 FBF4=064A.0654.06C8 FBF5=064A.0654.06C8",
  "FBF6=064A.0654.06D0 FBF7=064A.0654.06D0 FBF8=064A.0654.06D0 FBF9=064A.0654.0649",
  "FBFA=064A.0654.0649 FBFB=064A.0654.0649 FBFC=06CC FBFD=06CC FBFE=06CC FBFF=06CC",
  "FC00=064A.0654.062C FC01=064A.0654.062D FC02=064A.0654.0645 FC03=064A.0654.0649",
  "FC04=064A.0654.064A FC05=0628.062C FC06=0628.062D FC07=0628.062E FC08=0628.0645",
  "FC09=0628.0649 FC0A=0628.064A FC0B=062A.062C FC0C=062A.062D FC0D=062A.062E FC0E=062A.0645",
  "FC0F=062A.0649 FC10=062A.064A FC11=062B.062C FC12=062B.0645 FC13=062B.0649 FC14=062B.064A",
  "FC15=062C.062D FC16=062C.0645 FC17=062D.062C FC18=062D.0645 FC19=062E.062C FC1A=062E.062D",
  "FC1B=062E.0645 FC1C=0633.062C FC1D=0633.062D FC1E=0633.062E FC1F=0633.0645 FC20=0635.062D",
  "FC21=0635.0645 FC22=0636.062C FC23=0636.062D FC24=0636.062E FC25=0636.0645 FC26=0637.062D",
  "FC27=0637.0645 FC28=0638.0645 FC29=0639.062C FC2A=0639.0645 FC2B=063A.062C FC2C=063A.0645",
  "FC2D=0641.062C FC2E=0641.062D FC2F=0641.062E FC30=0641.0645 FC31=0641.0649 FC32=0641.064A",
  "FC33=0642.062D FC34=0642.0645 FC35=0642.0649 FC36=0642.064A FC37=0643.0627 FC38=0643.062C",
  "FC39=0643.062D FC3A=0643.062E FC3B=0643.0644 FC3C=0643.0645 FC3D=0643.0649 FC3E=0643.064A",
  "FC3F=0644.062C FC40=0644.062D FC41=0644.062E FC42=0644.0645 FC43=0644.0649 FC44=0644.064A",
  "FC45=0645.062C FC46=0645.062D FC47=0645.062E FC48=0645.0645 FC49=0645.0649 FC4A=0645.064A",
  "FC4B=0646.062C FC4C=0646.062D FC4D=0646.062E FC4E=0646.0645 FC4F=0646.0649 FC50=0646.064A",
  "FC51=0647.062C FC52=0647.0645 FC53=0647.0649 FC54=0647.064A FC55=064A.062C FC56=064A.062D",
  "FC57=064A.062E FC58=064A.0645 FC59=064A.0649 FC5A=064A.064A FC5B=0630.0670 FC5C=0631.0670",
  "FC5D=0649.0670 FC5E=0020.064C.0651 FC5F=0020.064D.0651 FC60=0020.064E.0651",
  "FC61=0020.064F.0651 FC62=0020.0650.0651 FC63=0020.0651.0670 FC64=064A.0654.0631",
  "FC65=064A.0654.0632 FC66=064A.0654.0645 FC67=064A.0654.0646 FC68=064A.0654.0649",
  "FC69=064A.0654.064A FC6A=0628.0631 FC6B=0628.0632 FC6C=0628.0645 FC6D=0628.0646",
  "FC6E=0628.0649 FC6F=0628.064A FC70=062A.0631 FC71=062A.0632 FC72=062A.0645 FC73=062A.0646",
  "FC74=062A.0649 FC75=062A.064A FC76=062B.0631 FC77=062B.0632 FC78=062B.0645 FC79=062B.0646",
  "FC7A=062B.0649 FC7B=062B.064A FC7C=0641.0649 FC7D=0641.064A FC7E=0642.0649 FC7F=0642.064A",
  "FC80=0643.0627 FC81=0643.0644 FC82=0643.0645 FC83=0643.0649 FC84=0643.064A FC85=0644.0645",
  "FC86=0644.0649 FC87=0644.064A FC88=0645.0627 FC89=0645.0645 FC8A=0646.0631 FC8B=0646.0632",
  "FC8C=0646.0645 FC8D=0646.0646 FC8E=0646.0649 FC8F=0646.064A FC90=0649.0670 FC91=064A.0631",
  "FC92=064A.0632 FC93=064A.0645 FC94=064A.0646 FC95=064A.0649 FC96=064A.064A",
  "FC97=064A.0654.062C FC98=064A.0654.062D FC99=064A.0654.062E FC9A=064A.0654.0645",
  "FC9B=064A.0654.0647 FC9C=0628.062C FC9D=0628.062D FC9E=0628.062E FC9F=0628.0645",
  "FCA0=0628.0647 FCA1=062A.062C FCA2=062A.062D FCA3=062A.062E FCA4=062A.0645 FCA5=062A.0647",
  "FCA6=062B.0645 FCA7=062C.062D FCA8=062C.0645 FCA9=062D.062C FCAA=062D.0645 FCAB=062E.062C",
  "FCAC=062E.0645 FCAD=0633.062C FCAE=0633.062D FCAF=0633.062E FCB0=0633.0645 FCB1=0635.062D",
  "FCB2=0635.062E FCB3=0635.0645 FCB4=0636.062C FCB5=0636.062D FCB6=0636.062E FCB7=0636.0645",
  "FCB8=0637.062D FCB9=0638.0645 FCBA=0639.062C FCBB=0639.0645 FCBC=063A.062C FCBD=063A.0645",
  "FCBE=0641.062C FCBF=0641.062D FCC0=0641.062E FCC1=0641.0645 FCC2=0642.062D FCC3=0642.0645",
  "FCC4=0643.062C FCC5=0643.062D FCC6=0643.062E FCC7=0643.0644 FCC8=0643.0645 FCC9=0644.062C",
  "FCCA=0644.062D FCCB=0644.062E FCCC=0644.0645 FCCD=0644.0647 FCCE=0645.062C FCCF=0645.062D",
  "FCD0=0645.062E FCD1=0645.0645 FCD2=0646.062C FCD3=0646.062D FCD4=0646.062E FCD5=0646.0645",
  "FCD6=0646.0647 FCD7=0647.062C FCD8=0647.0645 FCD9=0647.0670 FCDA=064A.062C FCDB=064A.062D",
  "FCDC=064A.062E FCDD=064A.0645 FCDE=064A.0647 FCDF=064A.0654.0645 FCE0=064A.0654.0647",
  "FCE1=0628.0645 FCE2=0628.0647 FCE3=062A.0645 FCE4=062A.0647 FCE5=062B.0645 FCE6=062B.0647",
  "FCE7=0633.0645 FCE8=0633.0647 FCE9=0634.0645 FCEA=0634.0647 FCEB=0643.0644 FCEC=0643.0645",
  "FCED=0644.0645 FCEE=0646.0645 FCEF=0646.0647 FCF0=064A.0645 FCF1=064A.0647",
  "FCF2=0640.064E.0651 FCF3=0640.064F.0651 FCF4=0640.0650.0651 FCF5=0637.0649 FCF6=0637.064A",
  "FCF7=0639.0649 FCF8=0639.064A FCF9=063A.0649 FCFA=063A.064A FCFB=0633.0649 FCFC=0633.064A",
  "FCFD=0634.0649 FCFE=0634.064A FCFF=062D.0649 FD00=062D.064A FD01=062C.0649 FD02=062C.064A",
  "FD03=062E.0649 FD04=062E.064A FD05=0635.0649 FD06=0635.064A FD07=0636.0649 FD08=0636.064A",
  "FD09=0634.062C FD0A=0634.062D FD0B=0634.062E FD0C=0634.0645 FD0D=0634.0631 FD0E=0633.0631",
  "FD0F=0635.0631 FD10=0636.0631 FD11=0637.0649 FD12=0637.064A FD13=0639.0649 FD14=0639.064A",
  "FD15=063A.0649 FD16=063A.064A FD17=0633.0649 FD18=0633.064A FD19=0634.0649 FD1A=0634.064A",
  "FD1B=062D.0649 FD1C=062D.064A FD1D=062C.0649 FD1E=062C.064A FD1F=062E.0649 FD20=062E.064A",
  "FD21=0635.0649 FD22=0635.064A FD23=0636.0649 FD24=0636.064A FD25=0634.062C FD26=0634.062D",
  "FD27=0634.062E FD28=0634.0645 FD29=0634.0631 FD2A=0633.0631 FD2B=0635.0631 FD2C=0636.0631",
  "FD2D=0634.062C FD2E=0634.062D FD2F=0634.062E FD30=0634.0645 FD31=0633.0647 FD32=0634.0647",
  "FD33=0637.0645 FD34=0633.062C FD35=0633.062D FD36=0633.062E FD37=0634.062C FD38=0634.062D",
  "FD39=0634.062E FD3A=0637.0645 FD3B=0638.0645 FD3C=0627.064B FD3D=0627.064B",
  "FD50=062A.062C.0645 FD51=062A.062D.062C FD52=062A.062D.062C FD53=062A.062D.0645",
  "FD54=062A.062E.0645 FD55=062A.0645.062C FD56=062A.0645.062D FD57=062A.0645.062E",
  "FD58=062C.0645.062D FD59=062C.0645.062D FD5A=062D.0645.064A FD5B=062D.0645.0649",
  "FD5C=0633.062D.062C FD5D=0633.062C.062D FD5E=0633.062C.0649 FD5F=0633.0645.062D",
  "FD60=0633.0645.062D FD61=0633.0645.062C FD62=0633.0645.0645 FD63=0633.0645.0645",
  "FD64=0635.062D.062D FD65=0635.062D.062D FD66=0635.0645.0645 FD67=0634.062D.0645",
  "FD68=0634.062D.0645 FD69=0634.062C.064A FD6A=0634.0645.062E FD6B=0634.0645.062E",
  "FD6C=0634.0645.0645 FD6D=0634.0645.0645 FD6E=0636.062D.0649 FD6F=0636.062E.0645",
  "FD70=0636.062E.0645 FD71=0637.0645.062D FD72=0637.0645.062D FD73=0637.0645.0645",
  "FD74=0637.0645.064A FD75=0639.062C.0645 FD76=0639.0645.0645 FD77=0639.0645.0645",
  "FD78=0639.0645.0649 FD79=063A.0645.0645 FD7A=063A.0645.064A FD7B=063A.0645.0649",
  "FD7C=0641.062E.0645 FD7D=0641.062E.0645 FD7E=0642.0645.062D FD7F=0642.0645.0645",
  "FD80=0644.062D.0645 FD81=0644.062D.064A FD82=0644.062D.0649 FD83=0644.062C.062C",
  "FD84=0644.062C.062C FD85=0644.062E.0645 FD86=0644.062E.0645 FD87=0644.0645.062D",
  "FD88=0644.0645.062D FD89=0645.062D.062C FD8A=0645.062D.0645 FD8B=0645.062D.064A",
  "FD8C=0645.062C.062D FD8D=0645.062C.0645 FD8E=0645.062E.062C FD8F=0645.062E.0645",
  "FD92=0645.062C.062E FD93=0647.0645.062C FD94=0647.0645.0645 FD95=0646.062D.0645",
  "FD96=0646.062D.0649 FD97=0646.062C.0645 FD98=0646.062C.0645 FD99=0646.062C.0649",
  "FD9A=0646.0645.064A FD9B=0646.0645.0649 FD9C=064A.0645.0645 FD9D=064A.0645.0645",
  "FD9E=0628.062E.064A FD9F=062A.062C.064A FDA0=062A.062C.0649 FDA1=062A.062E.064A",
  "FDA2=062A.062E.0649 FDA3=062A.0645.064A FDA4=062A.0645.0649 FDA5=062C.0645.064A",
  "FDA6=062C.062D.0649 FDA7=062C.0645.0649 FDA8=0633.062E.0649 FDA9=0635.062D.064A",
  "FDAA=0634.062D.064A FDAB=0636.062D.064A FDAC=0644.062C.064A FDAD=0644.0645.064A",
  "FDAE=064A.062D.064A FDAF=064A.062C.064A FDB0=064A.0645.064A FDB1=0645.0645.064A",
  "FDB2=0642.0645.064A FDB3=0646.062D.064A FDB4=0642.0645.062D FDB5=0644.062D.0645",
  "FDB6=0639.0645.064A FDB7=0643.0645.064A FDB8=0646.062C.062D FDB9=0645.062E.064A",
  "FDBA=0644.062C.0645 FDBB=0643.0645.0645 FDBC=0644.062C.0645 FDBD=0646.062C.062D",
  "FDBE=062C.062D.064A FDBF=062D.062C.064A FDC0=0645.062C.064A FDC1=0641.0645.064A",
  "FDC2=0628.062D.064A FDC3=0643.0645.0645 FDC4=0639.062C.0645 FDC5=0635.0645.0645",
  "FDC6=0633.062E.064A FDC7=0646.062C.064A FDF0=0635.0644.06D2 FDF1=0642.0644.06D2",
  "FDF2=0627.0644.0644.0647 FDF3=0627.0643.0628.0631 FDF4=0645.062D.0645.062F",
  "FDF5=0635.0644.0639.0645 FDF6=0631.0633.0648.0644 FDF7=0639.0644.064A.0647",
  "FDF8=0648.0633.0644.0645 FDF9=0635.0644.0649",
  "FDFA=0635.0644.0649.0020.0627.0644.0644.0647.0020.0639.0644.064A.0647.0020.0648.0633.0644.0645",
  "FDFB=062C.0644.0020.062C.0644.0627.0644.0647 FDFC=0631.06CC.0627.0644 FE10=002C",
  "FE11-FE12=3001 FE13-FE14=003A FE15=0021 FE16=003F FE17-FE18=3016 FE19=002E.002E.002E",
  "FE30=002E.002E FE31=2014 FE32=2013 FE33=005F FE34=005F FE35-FE36=0028 FE37=007B FE38=007D",
  "FE39-FE3A=3014 FE3B-FE3C=3010 FE3D-FE3E=300A FE3F-FE40=3008 FE41-FE44=300C FE47=005B",
  "FE48=005D FE49=0020.0305 FE4A=0020.0305 FE4B=0020.0305 FE4C=0020.0305 FE4D=005F FE4E=005F",
  "FE4F=005F FE50=002C FE51=3001 FE52=002E FE54=003B FE55=003A FE56=003F FE57=0021 FE58=2014",
  "FE59-FE5A=0028 FE5B=007B FE5C=007D FE5D-FE5E=3014 FE5F=0023 FE60=0026 FE61-FE62=002A",
  "FE63=002D FE64=003C FE65=003E FE66=003D FE68=005C FE69-FE6A=0024 FE6B=0040 FE70=0020.064B",
  "FE71=0640.064B FE72=0020.064C FE74=0020.064D FE76=0020.064E FE77=0640.064E FE78=0020.064F",
  "FE79=0640.064F FE7A=0020.0650 FE7B=0640.0650 FE7C=0020.0651 FE7D=0640.0651 FE7E=0020.0652",
  "FE7F=0640.0652 FE80=0621 FE81=0627.0653 FE82=0627.0653 FE83=0627.0654 FE84=0627.0654",
  "FE85=0648.0654 FE86=0648.0654 FE87=0627.0655 FE88=0627.0655 FE89=064A.0654 FE8A=064A.0654",
  "FE8B=064A.0654 FE8C=064A.0654 FE8D=0627 FE8E-FE8F=0627 FE90=0628 FE91=0628 FE92-FE93=0628",
  "FE94-FE95=0629 FE96=062A FE97=062A FE98-FE99=062A FE9A=062B FE9B=062B FE9C-FE9D=062B",
  "FE9E=062C FE9F=062C FEA0-FEA1=062C FEA2=062D FEA3=062D FEA4-FEA5=062D FEA6=062E FEA7=062E",
  "FEA8-FEA9=062E FEAA-FEAB=062F FEAC-FEAD=0630 FEAE-FEAF=0631 FEB0-FEB1=0632 FEB2=0633",
  "FEB3=0633 FEB4-FEB5=0633 FEB6=0634 FEB7=0634 FEB8-FEB9=0634 FEBA=0635 FEBB=0635",
  "FEBC-FEBD=0635 FEBE=0636 FEBF=0636 FEC0-FEC1=0636 FEC2=0637 FEC3=0637 FEC4-FEC5=0637",
  "FEC6=0638 FEC7=0638 FEC8-FEC9=0638 FECA=0639 FECB=0639 FECC-FECD=0639 FECE=063A FECF=063A",
  "FED0=063A FED1=0641 FED2=0641 FED3=0641 FED4-FED5=0641 FED6=0642 FED7=0642 FED8-FED9=0642",
  "FEDA=0643 FEDB=0643 FEDC-FEDD=0643 FEDE=0644 FEDF=0644 FEE0-FEE1=0644 FEE2=0645 FEE3=0645",
  "FEE4-FEE5=0645 FEE6=0646 FEE7=0646 FEE8-FEE9=0646 FEEA=0647 FEEB=0647 FEEC-FEED=0647",
  "FEEE-FEEF=0648 FEF0-FEF1=0649 FEF2=064A FEF3=064A FEF4=064A FEF5=0644.0627.0653",
  "FEF6=0644.0627.0653 FEF7=0644.0627.0654 FEF8=0644.0627.0654 FEF9=0644.0627.0655",
  "FEFA=0644.0627.0655 FEFB=0644.0627 FEFC=0644.0627 FF01-FF5E=0021 FF5F-FF60=2985 FF61=3002",
  "FF62-FF63=300C FF64=3001 FF65=30FB FF66=30F2 FF67=30A1 FF68=30A3 FF69=30A5 FF6A=30A7",
  "FF6B=30A9 FF6C=30E3 FF6D=30E5 FF6E=30E7 FF6F=30C3 FF70=30FC FF71=30A2 FF72=30A4 FF73=30A6",
  "FF74=30A8 FF75-FF76=30AA FF77=30AD FF78=30AF FF79=30B1 FF7A=30B3 FF7B=30B5 FF7C=30B7",
  "FF7D=30B9 FF7E=30BB FF7F=30BD FF80=30BF FF81=30C1 FF82=30C4 FF83=30C6 FF84=30C8",
  "FF85-FF8A=30CA FF8B=30D2 FF8C=30D5 FF8D=30D8 FF8E=30DB FF8F-FF93=30DE FF94=30E4 FF95=30E6",
  "FF96-FF9B=30E8 FF9C=30EF FF9D=30F3 FF9E-FF9F=3099 FFA0=1160 FFA1-FFA2=1100 FFA3=11AA",
  "FFA4=1102 FFA5-FFA6=11AC FFA7-FFA9=1103 FFAA-FFAF=11B0 FFB0=111A FFB1-FFB3=1106 FFB4=1121",
  "FFB5-FFBE=1109 FFC2-FFC7=1161 FFCA-FFCF=1167 FFD2-FFD7=116D FFDA-FFDC=1173 FFE0-FFE1=00A2",
  "FFE2=00AC FFE3=0020.0304 FFE4=00A6 FFE5=00A5 FFE6=20A9 FFE8=2502 FFE9-FFEC=2190 FFED=25A0",
  "FFEE=25CB 105C9=105D2.0307 105E4=105DA.0307 10781-10782=02D0 10783=00E6 10784=0299",
  "10785=0253 10787=02A3 10788=AB66 10789=02A5 1078A=02A4 1078B-1078C=0256 1078D=1D91",
  "1078E=0258 1078F=025E 10790=02A9 10791=0264 10792=0262 10793=0260 10794=029B 10795=0127",
  "10796=029C 10797=0267 10798=0284 10799-1079A=02AA 1079B=026C 1079C=1DF04 1079D=A78E",
  "1079E=026E 1079F=1DF05 107A0=028E 107A1=1DF06 107A2=00F8 107A3-107A4=0276 107A5=0071",
  "107A6=027A 107A7=1DF08 107A8-107A9=027D 107AA=0280 107AB=02A8 107AC=02A6 107AD=AB67",
  "107AE=02A7 107AF=0288 107B0=2C71 107B2=028F 107B3-107B4=02A1 107B5=0298 107B6-107B8=01C0",
  "107B9=1DF0A 107BA=1DF1E 107BB=0287 107BC-107BD=0296 107BE=029E 107BF=1DF0B 1109A=11099.110BA",
  "1109C=1109B.110BA 110AB=110A5.110BA 1112E=11131.11127 1112F=11132.11127 1134B=11347.1133E",
  "1134C=11347.11357 11383=11382.113C9 11385=11384.113BB 1138E=1138B.113C2 11391=11390.113C9",
  "113C5=113C2.113C2 113C7=113C2.113B8 113C8=113C2.113C9 114BB=114B9.114BA 114BC=114B9.114B0",
  "114BE=114B9.114BD 115BA=115B8.115AF 115BB=115B9.115AF 11938=11935.11930 16121=1611E.1611E",
  "16122=1611E.16129 16123=1611E.1611F 16124=16129.1611F 16125=1611E.16120",
  "16126=1611E.1611E.1611F 16127=1611E.16129.1611F 16128=1611E.1611E.16120 16D68=16D67.16D67",
  "16D69=16D63.16D67 16D6A=16D63.16D67.16D67 1B123=3053.3068 1B124=30C8.30AD 1B125=30C8.30C6",
  "1B126=30E8.30EA 1CCD6-1CCEF=0041 1CCF0-1CCF9=0030 1D15E=1D157.1D165 1D15F=1D158.1D165",
  "1D160=1D158.1D165.1D16E 1D161=1D158.1D165.1D16F 1D162=1D158.1D165.1D170",
  "1D163=1D158.1D165.1D171 1D164=1D158.1D165.1D172 1D1BB=1D1B9.1D165 1D1BC=1D1BA.1D165",
  "1D1BD=1D1B9.1D165.1D16E 1D1BE=1D1BA.1D165.1D16E 1D1BF=1D1B9.1D165.1D16F",
  "1D1C0=1D1BA.1D165.1D16F 1D400-1D419=0041 1D41A-1D433=0061 1D434-1D44D=0041 1D44E-1D454=0061",
  "1D456-1D467=0069 1D468-1D481=0041 1D482-1D49B=0061 1D49C=0041 1D49E-1D49F=0043 1D4A2=0047",
  "1D4A5-1D4A6=004A 1D4A9-1D4AC=004E 1D4AE-1D4B5=0053 1D4B6-1D4B9=0061 1D4BB=0066",
  "1D4BD-1D4C3=0068 1D4C5-1D4CF=0070 1D4D0-1D4E9=0041 1D4EA-1D503=0061 1D504-1D505=0041",
  "1D507-1D50A=0044 1D50D-1D514=004A 1D516-1D51C=0053 1D51E-1D537=0061 1D538-1D539=0041",
  "1D53B-1D53E=0044 1D540-1D544=0049 1D546=004F 1D54A-1D550=0053 1D552-1D56B=0061",
  "1D56C-1D585=0041 1D586-1D59F=0061 1D5A0-1D5B9=0041 1D5BA-1D5D3=0061 1D5D4-1D5ED=0041",
  "1D5EE-1D607=0061 1D608-1D621=0041 1D622-1D63B=0061 1D63C-1D655=0041 1D656-1D66F=0061",
  "1D670-1D689=0041 1D68A-1D6A3=0061 1D6A4=0131 1D6A5=0237 1D6A6=00DF 1D6A8-1D6B8=0391",
  "1D6B9=0398 1D6BA-1D6C0=03A3 1D6C1=2207 1D6C2-1D6DA=03B1 1D6DB=2202 1D6DC=03B5 1D6DD=03B8",
  "1D6DE=03BA 1D6DF=03C6 1D6E0=03C1 1D6E1=03C0 1D6E2-1D6F2=0391 1D6F3=0398 1D6F4-1D6FA=03A3",
  "1D6FB=2207 1D6FC-1D714=03B1 1D715=2202 1D716=03B5 1D717=03B8 1D718=03BA 1D719=03C6",
  "1D71A=03C1 1D71B=03C0 1D71C-1D72C=0391 1D72D=0398 1D72E-1D734=03A3 1D735=2207",
  "1D736-1D74E=03B1 1D74F=2202 1D750=03B5 1D751=03B8 1D752=03BA 1D753=03C6 1D754=03C1",
  "1D755=03C0 1D756-1D766=0391 1D767=0398 1D768-1D76E=03A3 1D76F=2207 1D770-1D788=03B1",
  "1D789=2202 1D78A=03B5 1D78B=03B8 1D78C=03BA 1D78D=03C6 1D78E=03C1 1D78F=03C0",
  "1D790-1D7A0=0391 1D7A1=0398 1D7A2-1D7A8=03A3 1D7A9=2207 1D7AA-1D7C2=03B1 1D7C3=2202",
  "1D7C4=03B5 1D7C5=03B8 1D7C6=03BA 1D7C7=03C6 1D7C8=03C1 1D7C9=03C0 1D7CA-1D7CB=03DC",
  "1D7CE-1D7D7=0030 1D7D8-1D7E1=0030 1D7E2-1D7EB=0030 1D7EC-1D7F5=0030 1D7F6-1D7FF=0030",
  "1DF95=00DF 1DFCD=1DF57 1DFD4=01E5 1DFD5=0142 1DFD6=019A 1DFD7=1DF50 1DFD8=1DF3E 1DFD9=0249",
  "1DFDA=1D7F 1DFDB=1DF3F 1DFDC=019E 1DFDD=027C 1DFDE-1DFDF=0238 1DFE0=1DF2B 1DFE1=1DF19",
  "1DFE2=0286 1DFE3=1D98 1DFE4=1DF2C 1DFE5=1DF1C 1DFE6=0293 1DFE7=1D9A 1DFE8=1D05 1DFE9=1D00",
  "1DFEA=1D07 1DFEB=027F 1DFEC=0285 1DFED-1DFEE=02AE 1DFEF=0221 1DFF0-1DFF1=0234 1DFF8=1D8A",
  "1DFF9=1D8E 1DFFA=0188 1DFFB=0199 1DFFC=01A5 1DFFD=02A0 1DFFE=01AD 1DFFF=1DF09",
  "1E030-1E038=0430 1E039-1E03B=043A 1E03C-1E046=043E 1E047=044B 1E048-1E049=044D 1E04A=A689",
  "1E04B=04D9 1E04C=0456 1E04D=0458 1E04E=04E9 1E04F=04AF 1E050=04CF 1E051-1E059=0430",
  "1E05A-1E05B=043A 1E05C-1E05D=043E 1E05E=0441 1E05F-1E064=0443 1E065-1E066=044A 1E067=0491",
  "1E068=0456 1E069=0455 1E06A=045F 1E06B=04AB 1E06C=A651 1E06D=04B1 1EE00-1EE01=0627",
  "1EE02=062C 1EE03=062F 1EE05=0648 1EE06=0632 1EE07=062D 1EE08=0637 1EE09=064A",
  "1EE0A-1EE0D=0643 1EE0E=0633 1EE0F=0639 1EE10=0641 1EE11=0635 1EE12=0642 1EE13=0631",
  "1EE14=0634 1EE15-1EE16=062A 1EE17=062E 1EE18=0630 1EE19=0636 1EE1A=0638 1EE1B=063A",
  "1EE1C=066E 1EE1D=06BA 1EE1E=06A1 1EE1F=066F 1EE21=0628 1EE22=062C 1EE24=0647 1EE27=062D",
  "1EE29=064A 1EE2A-1EE2D=0643 1EE2E=0633 1EE2F=0639 1EE30=0641 1EE31=0635 1EE32=0642",
  "1EE34=0634 1EE35-1EE36=062A 1EE37=062E 1EE39=0636 1EE3B=063A 1EE42=062C 1EE47=062D",
  "1EE49=064A 1EE4B=0644 1EE4D=0646 1EE4E=0633 1EE4F=0639 1EE51=0635 1EE52=0642 1EE54=0634",
  "1EE57=062E 1EE59=0636 1EE5B=063A 1EE5D=06BA 1EE5F=066F 1EE61=0628 1EE62=062C 1EE64=0647",
  "1EE67=062D 1EE68=0637 1EE69=064A 1EE6A=0643 1EE6C-1EE6D=0645 1EE6E=0633 1EE6F=0639",
  "1EE70=0641 1EE71=0635 1EE72=0642 1EE74=0634 1EE75-1EE76=062A 1EE77=062E 1EE79=0636",
  "1EE7A=0638 1EE7B=063A 1EE7C=066E 1EE7E=06A1 1EE80-1EE81=0627 1EE82=062C 1EE83=062F",
  "1EE84-1EE85=0647 1EE86=0632 1EE87=062D 1EE88=0637 1EE89=064A 1EE8B-1EE8D=0644 1EE8E=0633",
  "1EE8F=0639 1EE90=0641 1EE91=0635 1EE92=0642 1EE93=0631 1EE94=0634 1EE95-1EE96=062A",
  "1EE97=062E 1EE98=0630 1EE99=0636 1EE9A=0638 1EE9B=063A 1EEA1=0628 1EEA2=062C 1EEA3=062F",
  "1EEA5=0648 1EEA6=0632 1EEA7=062D 1EEA8=0637 1EEA9=064A 1EEAB-1EEAD=0644 1EEAE=0633",
  "1EEAF=0639 1EEB0=0641 1EEB1=0635 1EEB2=0642 1EEB3=0631 1EEB4=0634 1EEB5-1EEB6=062A",
  "1EEB7=062E 1EEB8=0630 1EEB9=0636 1EEBA=0638 1EEBB=063A 1F100=0030.002E 1F101=0030.002C",
  "1F102=0031.002C 1F103=0032.002C 1F104=0033.002C 1F105=0034.002C 1F106=0035.002C",
  "1F107=0036.002C 1F108=0037.002C 1F109=0038.002C 1F10A=0039.002C 1F110=0028.0041.0029",
  "1F111=0028.0042.0029 1F112=0028.0043.0029 1F113=0028.0044.0029 1F114=0028.0045.0029",
  "1F115=0028.0046.0029 1F116=0028.0047.0029 1F117=0028.0048.0029 1F118=0028.0049.0029",
  "1F119=0028.004A.0029 1F11A=0028.004B.0029 1F11B=0028.004C.0029 1F11C=0028.004D.0029",
  "1F11D=0028.004E.0029 1F11E=0028.004F.0029 1F11F=0028.0050.0029 1F120=0028.0051.0029",
  "1F121=0028.0052.0029 1F122=0028.0053.0029 1F123=0028.0054.0029 1F124=0028.0055.0029",
  "1F125=0028.0056.0029 1F126=0028.0057.0029 1F127=0028.0058.0029 1F128=0028.0059.0029",
  "1F129=0028.005A.0029 1F12A=3014.0053.3015 1F12B=0043 1F12C=0052 1F12D=0043.0044",
  "1F12E=0057.005A 1F130-1F149=0041 1F14A=0048.0056 1F14B=004D.0056 1F14C=0053.0044",
  "1F14D=0053.0053 1F14E=0050.0050.0056 1F14F=0057.0043 1F16A=004D.0043 1F16B=004D.0044",
  "1F16C=004D.0052 1F190=0044.004A 1F200=307B.304B 1F201=30B3.30B3 1F202=30B5 1F210=624B",
  "1F211=5B57 1F212=53CC 1F213=30C6.3099 1F214=4E8C 1F215=591A 1F216=89E3 1F217=5929 1F218=4EA4",
  "1F219=6620 1F21A=7121 1F21B=6599 1F21C=524D 1F21D=5F8C 1F21E=518D 1F21F=65B0 1F220=521D",
  "1F221=7D42 1F222=751F 1F223=8CA9 1F224=58F0 1F225=5439 1F226=6F14 1F227=6295 1F228=6355",
  "1F229=4E00 1F22A=4E09 1F22B=904A 1F22C=5DE6 1F22D=4E2D 1F22E=53F3 1F22F=6307 1F230=8D70",
  "1F231=6253 1F232=7981 1F233=7A7A 1F234=5408 1F235=6E80 1F236=6709 1F237=6708 1F238=7533",
  "1F239=5272 1F23A=55B6 1F23B=914D 1F240=3014.672C.3015 1F241=3014.4E09.3015",
  "1F242=3014.4E8C.3015 1F243=3014.5B89.3015 1F244=3014.70B9.3015 1F245=3014.6253.3015",
  "1F246=3014.76D7.3015 1F247=3014.52DD.3015 1F248=3014.6557.3015 1F250=5F97 1F251=53EF",
  "1FBF0-1FBF9=0030 2F800=4E3D 2F801=4E38 2F802=4E41 2F803=20122 2F804=4F60 2F805=4FAE",
  "2F806=4FBB 2F807=5002 2F808=507A 2F809=5099 2F80A=50E7 2F80B=50CF 2F80C=349E 2F80D=2063A",
  "2F80E=514D 2F80F=5154 2F810=5164 2F811=5177 2F812=2051C 2F813=34B9 2F814=5167 2F815=518D",
  "2F816=2054B 2F817=5197 2F818=51A4 2F819=4ECC 2F81A=51AC 2F81B=51B5 2F81C=291DF 2F81D=51F5",
  "2F81E=5203 2F81F=34DF 2F820=523B 2F821=5246 2F822=5272 2F823=5277 2F824=3515 2F825=52C7",
  "2F826=52C9 2F827=52E4 2F828=52FA 2F829-2F82A=5305 2F82B=5317 2F82C=5349 2F82D=5351",
  "2F82E=535A 2F82F=5373 2F830=537D 2F831=537F 2F832=537F 2F833=537F 2F834=20A2C 2F835=7070",
  "2F836=53CA 2F837=53DF 2F838=20B63 2F839=53EB 2F83A=53F1 2F83B=5406 2F83C=549E 2F83D=5438",
  "2F83E=5448 2F83F=5468 2F840=54A2 2F841=54F6 2F842=5510 2F843=5553 2F844=5563 2F845=5584",
  "2F846=5584 2F847=5599 2F848=55AB 2F849=55B3 2F84A=55C2 2F84B=5716 2F84C=5606 2F84D=5717",
  "2F84E=5651 2F84F=5674 2F850=5207 2F851=58EE 2F852=57CE 2F853=57F4 2F854=580D 2F855=578B",
  "2F856=5832 2F857=5831 2F858=58AC 2F859=214E4 2F85A=58F2 2F85B=58F7 2F85C=5906 2F85D=591A",
  "2F85E=5922 2F85F=5962 2F860=216A8 2F861=216EA 2F862=59EC 2F863=5A1B 2F864=5A27 2F865=59D8",
  "2F866=5A66 2F867=36EE 2F868=36FC 2F869=5B08 2F86A=5B3E 2F86B=5B3E 2F86C=219C8 2F86D=5BC3",
  "2F86E=5BD8 2F86F=5BE7 2F870=5BF3 2F871=21B18 2F872=5BFF 2F873=5C06 2F874=5F53 2F875=5C22",
  "2F876=3781 2F877=5C60 2F878=5C6E 2F879=5CC0 2F87A=5C8D 2F87B=21DE4 2F87C=5D43 2F87D=21DE6",
  "2F87E=5D6E 2F87F=5D6B 2F880=5D7C 2F881-2F882=5DE1 2F883=382F 2F884=5DFD 2F885=5E28",
  "2F886=5E3D 2F887=5E69 2F888=3862 2F889=22183 2F88A=387C 2F88B=5EB0 2F88C=5EB3 2F88D=5EB6",
  "2F88E=5ECA 2F88F=2A392 2F890=5EFE 2F891=22331 2F892=22331 2F893=8201 2F894=5F22 2F895=5F22",
  "2F896=38C7 2F897=232B8 2F898=261DA 2F899=5F62 2F89A=5F6B 2F89B=38E3 2F89C=5F9A 2F89D=5FCD",
  "2F89E=5FD7 2F89F=5FF9 2F8A0=6081 2F8A1=393A 2F8A2=391C 2F8A3=6094 2F8A4=226D4 2F8A5=60C7",
  "2F8A6=6148 2F8A7=614C 2F8A8=614E 2F8A9=614C 2F8AA=617A 2F8AB=618E 2F8AC=61B2 2F8AD=61A4",
  "2F8AE=61AF 2F8AF=61DE 2F8B0=61F2 2F8B1=61F6 2F8B2=6210 2F8B3=621B 2F8B4=625D 2F8B5=62B1",
  "2F8B6=62D4 2F8B7=6350 2F8B8=22B0C 2F8B9=633D 2F8BA=62FC 2F8BB=6368 2F8BC=6383 2F8BD=63E4",
  "2F8BE=22BF1 2F8BF=6422 2F8C0=63C5 2F8C1=63A9 2F8C2=3A2E 2F8C3=6469 2F8C4=647E 2F8C5=649D",
  "2F8C6=6477 2F8C7=3A6C 2F8C8=654F 2F8C9=656C 2F8CA=2300A 2F8CB=65E3 2F8CC=66F8 2F8CD=6649",
  "2F8CE=3B19 2F8CF=6691 2F8D0=3B08 2F8D1=3AE4 2F8D2=5192 2F8D3=5195 2F8D4=6700 2F8D5=669C",
  "2F8D6=80AD 2F8D7=43D9 2F8D8=6717 2F8D9=671B 2F8DA=6721 2F8DB=675E 2F8DC=6753 2F8DD=233C3",
  "2F8DE=3B49 2F8DF=67FA 2F8E0=6785 2F8E1=6852 2F8E2=6885 2F8E3=2346D 2F8E4=688E 2F8E5=681F",
  "2F8E6=6914 2F8E7=3B9D 2F8E8=6942 2F8E9=69A3 2F8EA=69EA 2F8EB=6AA8 2F8EC=236A3 2F8ED=6ADB",
  "2F8EE=3C18 2F8EF=6B21 2F8F0=238A7 2F8F1=6B54 2F8F2=3C4E 2F8F3=6B72 2F8F4=6B9F",
  "2F8F5-2F8F6=6BBA 2F8F7=23A8D 2F8F8=21D0B 2F8F9=23AFA 2F8FA=6C4E 2F8FB=23CBC 2F8FC=6CBF",
  "2F8FD=6CCD 2F8FE=6C67 2F8FF=6D16 2F900=6D3E 2F901=6D77 2F902=6D41 2F903=6D69 2F904=6D78",
  "2F905=6D85 2F906=23D1E 2F907=6D34 2F908=6E2F 2F909=6E6E 2F90A=3D33 2F90B=6ECB 2F90C=6EC7",
  "2F90D=23ED1 2F90E=6DF9 2F90F=6F6E 2F910=23F5E 2F911=23F8E 2F912=6FC6 2F913=7039 2F914=701E",
  "2F915=701B 2F916=3D96 2F917=704A 2F918=707D 2F919=7077 2F91A=70AD 2F91B=20525 2F91C=7145",
  "2F91D=24263 2F91E=719C 2F91F=243AB 2F920=7228 2F921=7235 2F922=7250 2F923=24608 2F924=7280",
  "2F925=7295 2F926=24735 2F927=24814 2F928=737A 2F929=738B 2F92A=3EAC 2F92B=73A5 2F92C=3EB8",
  "2F92D=3EB8 2F92E=7447 2F92F=745C 2F930=7471 2F931=7485 2F932=74CA 2F933=3F1B 2F934=7524",
  "2F935=24C36 2F936=753E 2F937=24C92 2F938=7570 2F939=2219F 2F93A=7610 2F93B=24FA1 2F93C=24FB8",
  "2F93D=25044 2F93E=3FFC 2F93F=4008 2F940=76F4 2F941=250F3 2F942=250F2 2F943=25119 2F944=25133",
  "2F945-2F946=771E 2F947=771F 2F948=774A 2F949=4039 2F94A=778B 2F94B=4046 2F94C=4096",
  "2F94D=2541D 2F94E=784E 2F94F=788C 2F950=78CC 2F951=40E3 2F952=25626 2F953=7956 2F954=2569A",
  "2F955=256C5 2F956=798F 2F957=79EB 2F958=412F 2F959=7A40 2F95A=7A4A 2F95B=7A4F 2F95C=2597C",
  "2F95D=25AA7 2F95E=25AA7 2F95F=7AEE 2F960=4202 2F961=25BAB 2F962=7BC6 2F963=7BC9 2F964=4227",
  "2F965=25C80 2F966=7CD2 2F967=42A0 2F968=7CE8 2F969=7CE3 2F96A=7D00 2F96B=25F86 2F96C=7D63",
  "2F96D=4301 2F96E=7DC7 2F96F=7E02 2F970=7E45 2F971=4334 2F972=26228 2F973=26247 2F974=4359",
  "2F975=262D9 2F976=7F7A 2F977=2633E 2F978=7F95 2F979=7FFA 2F97A=8005 2F97B=264DA 2F97C=26523",
  "2F97D=8060 2F97E=265A8 2F97F=8070 2F980=2335F 2F981=43D5 2F982=80B2 2F983=8103 2F984=440B",
  "2F985=813E 2F986=5AB5 2F987=267A7 2F988=267B5 2F989=23393 2F98A=2339C 2F98B=8201 2F98C=8204",
  "2F98D=8F9E 2F98E=446B 2F98F=8291 2F990=828B 2F991=829D 2F992=52B3 2F993=82B1 2F994=82B3",
  "2F995=82BD 2F996=82E6 2F997=26B3C 2F998=82E5 2F999=831D 2F99A=8363 2F99B=83AD 2F99C=8323",
  "2F99D=83BD 2F99E=83E7 2F99F=8457 2F9A0=8353 2F9A1=83CA 2F9A2=83CC 2F9A3=83DC 2F9A4=26C36",
  "2F9A5=26D6B 2F9A6=26CD5 2F9A7=452B 2F9A8=84F1 2F9A9=84F3 2F9AA=8516 2F9AB=273CA 2F9AC=8564",
  "2F9AD=26F2C 2F9AE=455D 2F9AF=4561 2F9B0=26FB1 2F9B1=270D2 2F9B2=456B 2F9B3=8650 2F9B4=865C",
  "2F9B5=8667 2F9B6=8669 2F9B7=86A9 2F9B8=8688 2F9B9=870E 2F9BA=86E2 2F9BB=8779 2F9BC=8728",
  "2F9BD=876B 2F9BE=8786 2F9BF=45D7 2F9C0=87E1 2F9C1=8801 2F9C2=45F9 2F9C3=8860 2F9C4=8863",
  "2F9C5=27667 2F9C6=88D7 2F9C7=88DE 2F9C8=4635 2F9C9=88FA 2F9CA=34BB 2F9CB=278AE 2F9CC=27966",
  "2F9CD=46BE 2F9CE=46C7 2F9CF=8AA0 2F9D0=8AED 2F9D1=8B8A 2F9D2=8C55 2F9D3=27CA8 2F9D4=8CAB",
  "2F9D5=8CC1 2F9D6=8D1B 2F9D7=8D77 2F9D8=27F2F 2F9D9=20804 2F9DA=8DCB 2F9DB=8DBC 2F9DC=8DF0",
  "2F9DD=208DE 2F9DE=8ED4 2F9DF=8F38 2F9E0=285D2 2F9E1=285ED 2F9E2=9094 2F9E3=90F1 2F9E4=9111",
  "2F9E5=2872E 2F9E6=911B 2F9E7=9238 2F9E8-2F9E9=92D7 2F9EA=927C 2F9EB=93F9 2F9EC=9415",
  "2F9ED=28BFA 2F9EE=958B 2F9EF=4995 2F9F0=95B7 2F9F1=28D77 2F9F2=49E6 2F9F3=96C3 2F9F4=5DB2",
  "2F9F5=9723 2F9F6=29145 2F9F7=2921A 2F9F8=4A6E 2F9F9=4A76 2F9FA=97E0 2F9FB=2940A 2F9FC=4AB2",
  "2F9FD=29496 2F9FE=980B 2F9FF=980B 2FA00=9829 2FA01=295B6 2FA02=98E2 2FA03=4B33 2FA04=9929",
  "2FA05=99A7 2FA06=99C2 2FA07=99FE 2FA08=4BCE 2FA09=29B30 2FA0A=9B12 2FA0B=9C40 2FA0C=9CFD",
  "2FA0D=4CCE 2FA0E=4CED 2FA0F=9D67 2FA10=2A0CE 2FA11=4CF8 2FA12=2A105 2FA13=2A20E 2FA14=2A291",
  "2FA15=9EBB 2FA16=4D56 2FA17=9EF9 2FA18=9EFE 2FA19=9F05 2FA1A=9F0F 2FA1B=9F16 2FA1C=9F3B",
  "2FA1D=2A600"]

/-- The code points joined by points in a table entry. -/
def codePoints (text : List Char) : List Nat := (fields '.' text).map codePoint

/-- The entries of `decompositionRows`. -/
def decompositionEntries : List (Assigned (List Nat)) :=
  Assigned.table CodeRange.ofText codePoints decompositionRows

/-- The full compatibility decomposition of a character. -/
def decompose (c : Char) : List Char :=
  match Hangul.decompose? c with
  | some cs => cs
  | none =>
    match Assigned.find? decompositionEntries c.toNat with
    | some ⟨r, [t]⟩ => [Char.ofNat (t + (c.toNat - r.first))]
    | some e => e.value.map Char.ofNat
    | none => [c]

end DocSearch.Unicode
